import Mathlib.Data.List.Chain
import KeywordDocs.Path

/-!
# Paths and their parents

Joining is the inverse of splitting on pieces without the separator (`split_join`). The parent of a
path is a front of it: its parts are the first ones of the path, and a part that counts follows them
(`parts_of_parent?`). A path and its ancestors are a chain of parents (`isChain_ancestors`). The paths of
the names in one directory have all parts but the last in common (`exists_split_join`).
-/

namespace KeywordDocs

/-! ### Splitting and joining -/

namespace Text

variable {α : Type} [DecidableEq α] {sep : α}

omit [DecidableEq α] in
theorem join_append {xs ys : List (List α)} (hxs : xs ≠ []) (hys : ys ≠ []) :
    join sep (xs ++ ys) = join sep xs ++ sep :: join sep ys := by
  induction xs with
  | nil => exact absurd rfl hxs
  | cons piece xs ih =>
    cases xs with
    | nil =>
      cases ys with
      | nil => exact absurd rfl hys
      | cons next ys => rfl
    | cons next xs =>
      have hrest := ih (List.cons_ne_nil _ _)
      simp only [List.cons_append, join] at hrest ⊢
      rw [hrest, List.append_assoc, List.cons_append]

/-- No piece has the separator in it. -/
theorem notMem_of_mem_split {cs piece : List α} (h : piece ∈ split sep cs) : sep ∉ piece := by
  induction cs generalizing piece with
  | nil =>
    rw [split, List.mem_singleton] at h
    subst h
    exact List.not_mem_nil
  | cons c cs ih =>
    rw [split] at h
    split at h
    · rcases List.mem_cons.mp h with rfl | h
      · exact List.not_mem_nil
      · exact ih h
    · rename_i hc
      cases hs : split sep cs with
      | nil => exact absurd hs (split_ne_nil sep cs)
      | cons first rest =>
        simp only [hs] at h
        rcases List.mem_cons.mp h with rfl | h
        · have hfirst : sep ∉ first := ih (hs ▸ List.mem_cons_self)
          exact fun hmem => (List.mem_cons.mp hmem).elim (fun e => hc e.symm) hfirst
        · exact ih (hs ▸ List.mem_cons_of_mem _ h)

/-- What is in a piece is in the list that was split. -/
theorem subset_of_mem_split {cs piece : List α} (h : piece ∈ split sep cs) : piece ⊆ cs := by
  induction cs generalizing piece with
  | nil =>
    rw [split, List.mem_singleton] at h
    exact h ▸ List.Subset.refl []
  | cons c cs ih =>
    rw [split] at h
    split at h
    · rcases List.mem_cons.mp h with rfl | h
      · exact List.nil_subset _
      · exact List.subset_cons_of_subset c (ih h)
    · cases hs : split sep cs with
      | nil => exact absurd hs (split_ne_nil sep cs)
      | cons first rest =>
        simp only [hs] at h
        rcases List.mem_cons.mp h with rfl | h
        · exact List.cons_subset_cons c (ih (hs ▸ List.mem_cons_self))
        · exact List.subset_cons_of_subset c (ih (hs ▸ List.mem_cons_of_mem _ h))

theorem split_of_notMem {piece : List α} (h : sep ∉ piece) : split sep piece = [piece] := by
  induction piece with
  | nil => rfl
  | cons c cs ih =>
    rw [List.mem_cons, not_or] at h
    obtain ⟨hc, hcs⟩ := h
    rw [split, if_neg (Ne.symm hc), ih hcs]

/-- Splitting around a separator splits both sides of it. -/
theorem split_append_sep (cs ds : List α) :
    split sep (cs ++ sep :: ds) = split sep cs ++ split sep ds := by
  induction cs with
  | nil => simp [split]
  | cons c cs ih =>
    simp only [List.cons_append, split, ih]
    by_cases hc : c = sep
    · rw [if_pos hc, if_pos hc, List.cons_append]
    · rw [if_neg hc, if_neg hc]
      cases hs : split sep cs with
      | nil => exact absurd hs (split_ne_nil sep cs)
      | cons piece rest => rfl

theorem split_append {piece : List α} (h : sep ∉ piece) (cs : List α) :
    split sep (piece ++ sep :: cs) = piece :: split sep cs := by
  rw [split_append_sep, split_of_notMem h, List.singleton_append]

/-- Joining pieces without the separator and splitting again gives the pieces back. -/
theorem split_join {pieces : List (List α)} (hne : pieces ≠ [])
    (h : ∀ piece ∈ pieces, sep ∉ piece) : split sep (join sep pieces) = pieces := by
  induction pieces with
  | nil => exact absurd rfl hne
  | cons piece rest ih =>
    have hpiece := h piece List.mem_cons_self
    cases rest with
    | nil => exact split_of_notMem hpiece
    | cons next rest =>
      have hrest := ih (List.cons_ne_nil _ _) fun other hother => h other (List.mem_cons_of_mem _ hother)
      rw [join, split_append hpiece, hrest]
      exact List.cons_ne_nil _ _

theorem split_append_last {piece : List α} (h : sep ∉ piece) (cs : List α) :
    split sep (cs ++ sep :: piece) = split sep cs ++ [piece] := by
  rw [split_append_sep, split_of_notMem h]

end Text

/-! ### Names in a directory -/

namespace PathText

variable {α : Type} [DecidableEq α] [PathAlphabet α]

open PathAlphabet

theorem isAbsolute_of_notMem {name : List α} (h : slash ∉ name) : isAbsolute name = false := by
  cases name with
  | nil => rfl
  | cons c cs =>
    rw [List.mem_cons, not_or] at h
    simp [isAbsolute, Ne.symm h.1]

theorem isAbsolute_join (dir : List α) {name : List α} (h : slash ∉ name) :
    isAbsolute (join dir name) = isAbsolute dir := by
  have hname := isAbsolute_of_notMem h
  rw [join, hname, if_neg Bool.false_ne_true]
  cases dir with
  | nil =>
    rw [if_pos (.inl rfl)]
    exact hname
  | cons c cs => split <;> rfl

/-- The paths of the names in one directory differ in their last part only. -/
theorem exists_split_join (dir : List α) :
    ∃ front, ∀ name : List α, slash ∉ name → Text.split slash (join dir name) = front ++ [name] := by
  by_cases hempty : dir = []
  · refine ⟨[], fun name h => ?_⟩
    rw [join, isAbsolute_of_notMem h, if_neg Bool.false_ne_true, if_pos (.inl hempty), hempty]
    exact Text.split_of_notMem h
  · by_cases hslash : dir.getLast? = some slash
    · obtain ⟨cs, rfl⟩ := List.getLast?_eq_some_iff.mp hslash
      refine ⟨Text.split slash cs, fun name h => ?_⟩
      rw [join, isAbsolute_of_notMem h, if_neg Bool.false_ne_true, if_pos (.inr hslash),
        List.append_assoc]
      exact Text.split_append_last h cs
    · refine ⟨Text.split slash dir, fun name h => ?_⟩
      rw [join, isAbsolute_of_notMem h, if_neg Bool.false_ne_true, if_neg (not_or.mpr ⟨hempty, hslash⟩)]
      exact Text.split_append_last h dir

/-! ### Parents -/

/-- Dropping idle parts leaves the end of the list, and a part in front that is not empty. -/
theorem dropIdle_eq_cons {parts rest : List (List α)} {part : List α}
    (h : dropIdle parts = part :: rest) : part ≠ [] ∧ part :: rest <:+ parts := by
  induction parts with
  | nil => cases h
  | cons first parts ih =>
    rw [dropIdle] at h
    split at h
    · rename_i hcounts
      cases h
      rw [counts, Bool.and_eq_true, decide_eq_true_eq] at hcounts
      exact ⟨hcounts.1, List.suffix_rfl⟩
    · obtain ⟨hne, hsuffix⟩ := ih h
      exact ⟨hne, hsuffix.trans (List.suffix_cons _ _)⟩

/-- The parts of a parent that is neither empty nor the root are the first ones of the path, and
a part that is not empty follows them. -/
theorem parts_of_parent? {p q : List α} (h : parent? p = some q) (hne : q ≠ [])
    (hroot : q ≠ [slash]) :
    ∃ back, Text.split slash p = Text.split slash q ++ back ∧ ∃ part ∈ back, part ≠ [] := by
  rw [parent?] at h
  split at h
  · cases h
  · rename_i part rest hparts
    obtain ⟨hpart, before, hbefore⟩ := dropIdle_eq_cons hparts
    split at h
    · cases h
      split at hne
      · rename_i habsolute
        rw [if_pos habsolute] at hroot
        exact absurd rfl hroot
      · exact absurd rfl hne
    · rename_i hfront
      cases h
      cases hdrop : dropIdle rest with
      | nil => exact absurd hdrop hfront
      | cons last front =>
        obtain ⟨_, between, hbetween⟩ := dropIdle_eq_cons hdrop
        have hsplit : Text.split slash p =
            (last :: front).reverse ++ (between.reverse ++ part :: before.reverse) := by
          rw [← List.reverse_inj, ← hbefore, ← hbetween]
          simp
        have hpieces : ∀ piece ∈ (last :: front).reverse, (slash : α) ∉ piece := by
          intro piece hpiece
          have hmem : piece ∈ Text.split slash p := by
            rw [hsplit]
            exact List.mem_append_left _ hpiece
          exact Text.notMem_of_mem_split hmem
        rw [Text.split_join (by simp) hpieces]
        exact ⟨_, hsplit, part, by simp, hpart⟩

/-- A parent that is neither empty nor the root is a front of the path. -/
theorem prefix_of_parent? {p q : List α} (h : parent? p = some q) (hne : q ≠ [])
    (hroot : q ≠ [slash]) : q <+: p := by
  obtain ⟨back, hsplit, part, hmem, _⟩ := parts_of_parent? h hne hroot
  refine ⟨slash :: Text.join slash back, ?_⟩
  calc q ++ slash :: Text.join slash back
      = Text.join slash (Text.split slash q) ++ slash :: Text.join slash back := by
        rw [Text.join_split]
    _ = Text.join slash (Text.split slash p) := by
        rw [hsplit, Text.join_append (Text.split_ne_nil slash q) (List.ne_nil_of_mem hmem)]
    _ = p := Text.join_split slash p

theorem ancestorsUpTo_eq_cons (fuel : Nat) (p : List α) :
    ∃ parents, ancestorsUpTo fuel p = p :: parents := by
  cases fuel with
  | zero => exact ⟨_, rfl⟩
  | succ fuel =>
    rw [ancestorsUpTo]
    split
    · exact ⟨_, rfl⟩
    · exact ⟨_, rfl⟩

/-- Each path in a list of ancestors is the parent of the one before it. -/
theorem isChain_ancestorsUpTo (fuel : Nat) (p : List α) :
    (ancestorsUpTo fuel p).IsChain (fun a b => parent? a = some b) := by
  induction fuel generalizing p with
  | zero => exact List.isChain_singleton p
  | succ fuel ih =>
    rw [ancestorsUpTo]
    split
    · exact List.isChain_singleton p
    · rename_i q hq
      obtain ⟨parents, hparents⟩ := ancestorsUpTo_eq_cons fuel q
      have hrest := ih q
      rw [hparents] at hrest ⊢
      exact List.isChain_cons_cons.mpr ⟨hq, hrest⟩

end PathText

namespace Path

theorem ancestors_eq_cons (p : Path) : ∃ parents, p.ancestors = p :: parents := by
  obtain ⟨parents, hparents⟩ := PathText.ancestorsUpTo_eq_cons (p.bytes.length + 1) p.bytes
  rw [ancestors, PathText.ancestors, hparents]
  exact ⟨_, rfl⟩

/-- Each path in the list of ancestors is the parent of the one before it. -/
theorem isChain_ancestors (p : Path) : p.ancestors.IsChain (fun a b => a.parent? = some b) := by
  refine List.isChain_map_of_isChain Path.mk ?_ (PathText.isChain_ancestorsUpTo _ p.bytes)
  intro a b hab
  rw [parent?, hab]
  rfl

end Path

end KeywordDocs
