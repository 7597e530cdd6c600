import Mathlib.Data.List.TakeWhile
import Mathlib.Tactic.SplitIfs
import KeywordDocs.Json.Decode
import KeywordDocs.Proofs.Encoding
import KeywordDocs.Proofs.Paths

/-!
# Lines of bytes

A program prints bytes, and what it prints is decoded as a whole before it is cut into lines. It might as
well be cut first: a line break is a byte of its own, which ends a sequence that is not complete, and
no sequence of several bytes stands for one (`split_decodeLossy`). So the last line of a text that is
not blank is told by its own bytes, whatever stands before it (`LastLine.lastLine?_eq`).

Trimming takes the blanks around a text away (`trimChars_append`), and there was nothing else around it
(`exists_trimChars`).
-/

namespace KeywordDocs

/-! ### Sequences of several bytes -/

namespace Utf8

variable {b : UInt8} {bs : Bytes}

/-- A sequence that has begun goes on with bytes that are no characters of their own, and stands for a
character that has more than six bits. -/
structure Pending.Wide (p : Pending) : Prop where
  low : 0x80 ≤ p.low
  bits : 1 ≤ p.bits ∨ 0x80 < p.low ∧ 2 ≤ p.owed

theorem wide_of_first {p : Pending} (h : first b = .inr p) : p.Wide := by
  simp only [first, beq_iff_eq] at h
  split_ifs at h with h₁ h₂ h₃ h₄ h₅ h₆ h₇ h₈ h₉
  all_goals
    cases h
    refine ⟨by simp, ?_⟩
    simp
    try omega

theorem Pending.Wide.next {p : Pending} (wide : p.Wide) (seen : Bytes) (hb : p.low ≤ b.toNat) :
    (Pending.mk seen (p.bits * 64 + (b.toNat - 0x80)) (p.owed - 1) 0x80 0xBF).Wide := by
  have hlow := wide.low
  refine ⟨Nat.le_refl _, .inl ?_⟩
  rcases wide.bits with hbits | ⟨hbits, _⟩
  · simp only
    omega
  · simp only
    omega

theorem wide_none (p : Pending) (h : none = some p) : p.Wide := nomatch h

theorem Pending.Wide.of_some {p : Pending} (wide : p.Wide) (q : Pending) (h : some p = some q) :
    q.Wide := Option.some.inj h ▸ wide

/-- A byte that is a character of its own ends what has begun, and nothing carries over to what follows. -/
theorem scan_append_ascii (hb : b.toNat < 0x80) {pending : Option Pending}
    (hp : ∀ p, pending = some p → p.Wide) (front back : Bytes) :
    scan pending (front ++ b :: back) =
      scan pending front ++ .char (Char.ofNat b.toNat) :: scan none back := by
  -- On the bytes in front; what is pending changes with each of them.
  induction front generalizing pending with
  | nil =>
    cases pending with
    | none => simp [scan, first_one hb]
    | some p =>
      have hlow := (hp p rfl).low
      have hout : ¬ (p.low ≤ b.toNat ∧ b.toNat ≤ p.high) := by omega
      simp [scan, if_neg hout, first_one hb]
  | cons c front ih =>
    have hnone : scan none (front ++ b :: back) =
        scan none front ++ .char (Char.ofNat b.toNat) :: scan none back := ih wide_none
    have hfirst : ∀ p, first c = .inr p → scan (some p) (front ++ b :: back) =
        scan (some p) front ++ .char (Char.ofNat b.toNat) :: scan none back :=
      fun p hfirst => ih (wide_of_first hfirst).of_some
    cases pending with
    | none =>
      cases hc : first c with
      | inl piece => simp [scan, hc, hnone]
      | inr p => simp [scan, hc, hfirst p hc]
    | some p =>
      by_cases hrange : p.low ≤ c.toNat ∧ c.toNat ≤ p.high
      · by_cases howed : p.owed ≤ 1
        · simp [scan, hrange, howed, hnone]
        · have hnext := ih ((hp p rfl).next (p.seen ++ [c]) hrange.1).of_some
          simp [scan, hrange, howed, hnext]
      · cases hc : first c with
        | inl piece => simp [scan, hrange, hc, hnone]
        | inr q => simp [scan, hrange, hc, hfirst q hc]

/-! ### Line breaks -/

theorem ofNat_ne_newline {n : Nat} (h : n ≠ 10) : Char.ofNat n ≠ '\n' := by
  by_cases hvalid : n.isValidChar
  · intro heq
    have hn := toNat_ofNat_of_valid hvalid
    rw [heq] at hn
    exact h hn.symm
  · rw [Char.ofNat, dif_neg hvalid]
    decide

theorem shown_ne_newline_of_first {piece : Piece} (hb : b ≠ 10) (h : first b = .inl piece) :
    piece.shown ≠ '\n' := by
  by_cases hone : b.toNat < 0x80
  · rw [first_one hone] at h
    cases h
    exact ofNat_ne_newline fun hn => hb (UInt8.toNat_inj.mp hn)
  · cases piece with
    | bad bytes =>
      rw [Piece.shown]
      decide
    | char c =>
      simp only [first] at h
      split_ifs at h
      all_goals cases h

/-- Bytes without a line break are shown without one: a sequence of several bytes never stands for it. -/
theorem newline_notMem_shown {pending : Option Pending} (hp : ∀ p, pending = some p → p.Wide)
    (h : 10 ∉ bs) : '\n' ∉ (scan pending bs).map Piece.shown := by
  induction bs generalizing pending with
  | nil => cases pending <;> simp [scan, Piece.shown]
  | cons b bs ih =>
    rw [List.mem_cons, not_or] at h
    obtain ⟨hb, hbs⟩ := h
    have hnone : '\n' ∉ (scan none bs).map Piece.shown := ih wide_none hbs
    -- What a byte at the start of a sequence gives, with or without bytes given up before it.
    have hfirst : '\n' ∉ (scan none (b :: bs)).map Piece.shown := by
      rw [scan]
      cases hc : first b with
      | inl piece =>
        rw [List.map_cons, List.mem_cons, not_or]
        exact ⟨(shown_ne_newline_of_first (Ne.symm hb) hc).symm, hnone⟩
      | inr p => exact ih (wide_of_first hc).of_some hbs
    cases pending with
    | none => exact hfirst
    | some p =>
      have hwide := hp p rfl
      rw [scan]
      by_cases hrange : p.low ≤ b.toNat ∧ b.toNat ≤ p.high
      · rw [if_pos hrange]
        by_cases howed : p.owed ≤ 1
        · have hbits : p.bits * 64 + (b.toNat - 0x80) ≠ 10 := by
            rcases hwide.bits with hbits | ⟨_, howes⟩
            · omega
            · omega
          rw [if_pos howed, List.map_cons, List.mem_cons, not_or]
          exact ⟨(ofNat_ne_newline hbits).symm, hnone⟩
        · rw [if_neg howed]
          exact ih (hwide.next _ hrange.1).of_some hbs
      · rw [if_neg hrange, List.map_cons, List.mem_cons, not_or]
        rw [scan] at hfirst
        exact ⟨by rw [Piece.shown]; decide, hfirst⟩

/-- Text on both sides of a line break is decoded apart. -/
theorem decodeLossy_append_newline (front back : Bytes) :
    (decodeLossy (front ++ 10 :: back)).toList =
      (decodeLossy front).toList ++ '\n' :: (decodeLossy back).toList := by
  have hscan := scan_append_ascii (b := 10) (by decide) wide_none front back
  simp only [decodeLossy, pieces, hscan, List.map_append, List.map_cons, String.toList_ofList]
  rfl

theorem decodeLossy_join {lines : List Bytes} (hne : lines ≠ []) :
    (decodeLossy (Text.join 10 lines)).toList =
      Text.join '\n' (lines.map fun line => (decodeLossy line).toList) := by
  induction lines with
  | nil => exact absurd rfl hne
  | cons line rest ih =>
    cases rest with
    | nil => rfl
    | cons next rest =>
      have hrest := ih (List.cons_ne_nil _ _)
      simp only [Text.join, List.map_cons] at hrest ⊢
      rw [decodeLossy_append_newline, hrest]

/-- The lines of a text are the lines of its bytes, each decoded on its own. -/
theorem split_decodeLossy (bs : Bytes) : Text.split '\n' (decodeLossy bs).toList =
    (Text.split 10 bs).map fun line => (decodeLossy line).toList := by
  have hne := Text.split_ne_nil 10 bs
  have hlines : ∀ line ∈ (Text.split 10 bs).map fun line => (decodeLossy line).toList,
      '\n' ∉ line := by
    intro _ hmem
    obtain ⟨line, hline, rfl⟩ := List.mem_map.mp hmem
    rw [decodeLossy, String.toList_ofList]
    exact newline_notMem_shown wide_none (Text.notMem_of_mem_split hline)
  calc Text.split '\n' (decodeLossy bs).toList
      = Text.split '\n' (decodeLossy (Text.join 10 (Text.split 10 bs))).toList := by
        rw [Text.join_split]
    _ = (Text.split 10 bs).map fun line => (decodeLossy line).toList := by
        rw [decodeLossy_join hne, Text.split_join (by simpa using hne) hlines]

end Utf8

/-! ### Trimming -/

namespace Text

theorem trimFront_eq_nil_iff {cs : List Char} :
    trimFront cs = [] ↔ ∀ c ∈ cs, isBlank c = true := List.dropWhile_eq_nil_iff

/-- Trimming leaves nothing of blanks, and of them only. -/
theorem trimChars_eq_nil_iff {cs : List Char} :
    trimChars cs = [] ↔ ∀ c ∈ cs, isBlank c = true := by
  have hback : trimChars cs = [] ↔ ∀ c ∈ trimFront cs, isBlank c = true := by
    simp only [trimChars, trimBack, List.reverse_eq_nil_iff, trimFront_eq_nil_iff, List.mem_reverse]
  rw [hback]
  constructor
  · intro hblank
    by_contra hcs
    have hne : trimFront cs ≠ [] := fun hnil => hcs (trimFront_eq_nil_iff.mp hnil)
    have hhead : isBlank ((trimFront cs).head hne) = false := List.head_dropWhile_not isBlank hne
    rw [hblank _ (List.head_mem hne)] at hhead
    cases hhead
  · exact fun hblank c hc => hblank c ((List.dropWhile_sublist isBlank).subset hc)

/-- Blanks are dropped up to the first character that is none. -/
theorem trimFront_append {blank cs : List Char} (hblank : ∀ c ∈ blank, isBlank c = true)
    (hcs : ∀ c, cs.head? = some c → isBlank c = false) : trimFront (blank ++ cs) = cs := by
  rw [trimFront, List.dropWhile_append_of_pos hblank]
  cases cs with
  | nil => rfl
  | cons c cs => rw [List.dropWhile_cons_of_neg (by rw [hcs c rfl]; decide)]

/-- Trimming takes the blanks around a text away, and nothing of a text that neither starts nor ends with
a blank. -/
theorem trimChars_append {front cs back : List Char} (hfront : ∀ c ∈ front, isBlank c = true)
    (hback : ∀ c ∈ back, isBlank c = true) (hne : cs ≠ [])
    (hhead : ∀ c, cs.head? = some c → isBlank c = false)
    (hlast : ∀ c, cs.getLast? = some c → isBlank c = false) :
    trimChars (front ++ cs ++ back) = cs := by
  have htrimmed : trimFront (front ++ cs ++ back) = cs ++ back := by
    rw [List.append_assoc]
    refine trimFront_append hfront fun c hc => hhead c ?_
    rwa [List.head?_append_of_ne_nil _ hne] at hc
  have hreversed : trimFront (cs ++ back).reverse = cs.reverse := by
    rw [List.reverse_append]
    refine trimFront_append (fun c hc => hback c (List.mem_reverse.mp hc)) fun c hc => hlast c ?_
    rwa [List.head?_reverse] at hc
  rw [trimChars, htrimmed, trimBack, hreversed, List.reverse_reverse]

/-- What trimming takes away at the front. -/
theorem exists_trimFront (cs : List Char) :
    ∃ blank, (∀ c ∈ blank, isBlank c = true) ∧ cs = blank ++ trimFront cs :=
  ⟨cs.takeWhile isBlank, fun _ => List.mem_takeWhile_imp, List.takeWhile_append_dropWhile.symm⟩

/-- What trimming takes away at the back. -/
theorem exists_trimBack (cs : List Char) :
    ∃ blank, (∀ c ∈ blank, isBlank c = true) ∧ cs = trimBack cs ++ blank := by
  obtain ⟨blank, hblank, hcs⟩ := exists_trimFront cs.reverse
  refine ⟨blank.reverse, fun c hc => hblank c (List.mem_reverse.mp hc), ?_⟩
  rw [trimBack, ← List.reverse_append, ← hcs, List.reverse_reverse]

/-- A text is what trimming leaves of it, with blanks around. -/
theorem exists_trimChars (cs : List Char) :
    ∃ front back, (∀ c ∈ front, isBlank c = true) ∧ (∀ c ∈ back, isBlank c = true) ∧
      cs = front ++ trimChars cs ++ back := by
  obtain ⟨front, hfront, hcs⟩ := exists_trimFront cs
  obtain ⟨back, hback, hrest⟩ := exists_trimBack (trimFront cs)
  refine ⟨front, back, hfront, hback, ?_⟩
  rw [trimChars, List.append_assoc, ← hrest]
  exact hcs

theorem isBlank_head?_trimFront {cs : List Char} {c : Char} (h : (trimFront cs).head? = some c) :
    isBlank c = false := by
  have hfirst := List.head?_dropWhile_not isBlank cs
  rw [trimFront] at h
  rwa [h] at hfirst

/-- What trimming leaves does not start with a blank. -/
theorem isBlank_head?_trimChars {cs : List Char} {c : Char} (h : (trimChars cs).head? = some c) :
    isBlank c = false := by
  obtain ⟨back, _, hrest⟩ := exists_trimBack (trimFront cs)
  have hne : trimBack (trimFront cs) ≠ [] := by
    intro hnil
    rw [trimChars, hnil] at h
    cases h
  refine @isBlank_head?_trimFront cs c ?_
  rw [hrest, List.head?_append_of_ne_nil _ hne]
  exact h

/-- What trimming leaves does not end with a blank. -/
theorem isBlank_getLast?_trimChars {cs : List Char} {c : Char}
    (h : (trimChars cs).getLast? = some c) : isBlank c = false := by
  rw [trimChars, trimBack, List.getLast?_reverse] at h
  exact isBlank_head?_trimFront h

/-! ### The last line that is not blank -/

/-- A line that is not blank and has only blank ones behind it is the last line. -/
theorem lastLine?_of_split {text : String} {front back : List (List Char)} {line : List Char}
    (h : split '\n' text.toList = front ++ line :: back) (hline : ∃ c ∈ line, isBlank c = false)
    (hback : ∀ other ∈ back, ∀ c ∈ other, isBlank c = true) :
    lastLine? text = some (String.ofList (trimChars line)) := by
  have hkept : trimChars line ≠ [] := by
    intro hnil
    obtain ⟨c, hc, hblank⟩ := hline
    rw [trimChars_eq_nil_iff.mp hnil c hc] at hblank
    cases hblank
  have hdropped : (back.map trimChars).filter (· ≠ []) = [] := by
    rw [List.filter_eq_nil_iff]
    intro _ hmem
    obtain ⟨other, hother, rfl⟩ := List.mem_map.mp hmem
    simp [trimChars_eq_nil_iff.mpr (hback other hother)]
  rw [lastLine?, h, List.map_append, List.map_cons, List.filter_append,
    List.filter_cons_of_pos (by simpa using hkept), hdropped, List.getLast?_concat]
  rfl

end Text

/-- A reply on a line of its own: whole lines stand before it, and blank ones behind it. -/
structure Utf8.LastLine (noise reply tail : Bytes) : Prop where
  noise_ends : noise = [] ∨ noise.getLast? = some 10
  one_line : 10 ∉ reply
  not_blank : ∃ c ∈ (Utf8.decodeLossy reply).toList, Text.isBlank c = false
  tail_begins : tail = [] ∨ tail.head? = some 10
  tail_blank : ∀ c ∈ (Utf8.decodeLossy tail).toList, Text.isBlank c = true

namespace Utf8.LastLine

variable {noise reply tail : Bytes}

/-- A reply with nothing around it is on a line of its own. -/
theorem alone (h : LastLine noise reply tail) : LastLine [] reply [] :=
  ⟨.inl rfl, h.one_line, h.not_blank, .inl rfl, fun _ hc => nomatch hc⟩

/-- The lines of what is printed: those of the noise, the reply, and those of the tail. -/
theorem exists_split (h : LastLine noise reply tail) : ∃ front back,
    Text.split 10 (noise ++ reply ++ tail) = front ++ reply :: back ∧
      ∀ line ∈ back, line ∈ Text.split 10 tail := by
  obtain ⟨back, hback, hmem⟩ : ∃ back, Text.split 10 (reply ++ tail) = reply :: back ∧
      ∀ line ∈ back, line ∈ Text.split 10 tail := by
    rcases h.tail_begins with rfl | htail
    · exact ⟨[], by rw [List.append_nil, Text.split_of_notMem h.one_line], fun _ hl => nomatch hl⟩
    · obtain ⟨rest, rfl⟩ := List.head?_eq_some_iff.mp htail
      exact ⟨Text.split 10 rest, Text.split_append h.one_line rest, fun line hline => by
        simpa [Text.split] using .inr hline⟩
  rcases h.noise_ends with rfl | hnoise
  · exact ⟨[], back, hback, hmem⟩
  · obtain ⟨lines, rfl⟩ := List.getLast?_eq_some_iff.mp hnoise
    refine ⟨Text.split 10 lines, back, ?_, hmem⟩
    rw [List.append_assoc, List.append_assoc, List.singleton_append, Text.split_append_sep, hback]

/-- The last line that is not blank is the reply, decoded on its own and trimmed. -/
theorem lastLine?_eq (h : LastLine noise reply tail) :
    Text.lastLine? (decodeLossy (noise ++ reply ++ tail)) = some (Text.trim (decodeLossy reply)) := by
  obtain ⟨front, back, hsplit, hmem⟩ := h.exists_split
  have hlines := split_decodeLossy (noise ++ reply ++ tail)
  rw [hsplit, List.map_append, List.map_cons] at hlines
  refine Text.lastLine?_of_split hlines h.not_blank ?_
  intro _ hother c hc
  obtain ⟨line, hline, rfl⟩ := List.mem_map.mp hother
  have hpiece : (decodeLossy line).toList ∈ Text.split '\n' (decodeLossy tail).toList := by
    rw [split_decodeLossy]
    exact List.mem_map_of_mem (hmem line hline)
  exact h.tail_blank c (Text.subset_of_mem_split hpiece hc)

/-- What is read from the last line is read from the reply alone. -/
theorem readLastLine?_eq {α : Type} (h : LastLine noise reply tail) (read : Json.Term → Option α) :
    Json.readLastLine? read (decodeLossy (noise ++ reply ++ tail)) =
      (Json.Term.ofString? (Text.trim (decodeLossy reply))).bind read := by
  rw [Json.readLastLine?, h.lastLine?_eq, Option.bind_some]

end Utf8.LastLine

end KeywordDocs
