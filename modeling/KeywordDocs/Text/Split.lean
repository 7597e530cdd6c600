import KeywordDocs.Text.Blank

/-!
# Splitting at a separator

`split sep` cuts a list at every occurrence of `sep`; `join sep` puts the pieces back. Splitting
always yields at least one piece, and one more piece than there are separators. On top of it
stand the comma-separated list of the command line and the lines of a program's output.
-/

namespace KeywordDocs.Text

/-- Cuts a list at every occurrence of `sep`. -/
def split {α : Type} [DecidableEq α] (sep : α) : List α → List (List α)
  | [] => [[]]
  | c :: cs =>
    if c = sep then [] :: split sep cs
    else
      match split sep cs with
      | [] => [[c]]
      | piece :: rest => (c :: piece) :: rest

/-- Puts pieces together with `sep` between neighbours. -/
def join {α : Type} (sep : α) : List (List α) → List α
  | [] => []
  | [piece] => piece
  | piece :: rest => piece ++ sep :: join sep rest

theorem split_ne_nil {α : Type} [DecidableEq α] (sep : α) (cs : List α) : split sep cs ≠ [] := by
  cases cs with
  | nil => simp [split]
  | cons c cs => simp only [split]; split <;> (try split) <;> simp

/-- Splitting loses nothing: joining the pieces gives the list back. -/
theorem join_split {α : Type} [DecidableEq α] (sep : α) (cs : List α) :
    join sep (split sep cs) = cs := by
  induction cs with
  | nil => rfl
  | cons c cs ih =>
    simp only [split]
    by_cases h : c = sep
    · rw [if_pos h]
      cases hs : split sep cs with
      | nil => exact absurd hs (split_ne_nil sep cs)
      | cons piece rest => rw [join, ← hs, ih, h]; rfl; simp
    · rw [if_neg h]
      cases hs : split sep cs with
      | nil => exact absurd hs (split_ne_nil sep cs)
      | cons piece rest =>
        rw [hs] at ih
        cases rest with
        | nil => simpa [join] using ih
        | cons next rest => simpa [join] using ih

/-- The entries of a comma-separated list: trimmed, blank ones left out. -/
def entries (list : String) : List String :=
  ((split ',' list.toList).map trimChars).filter (· ≠ []) |>.map String.ofList

/-- The last line of a text that is not blank, trimmed. -/
def lastLine? (text : String) : Option String :=
  ((split '\n' text.toList).map trimChars).filter (· ≠ []) |>.getLast?.map String.ofList

end KeywordDocs.Text
