import Mathlib.Data.List.Basic
import KeywordDocs.Path

/-!
# Text in bytes

Decoding undoes encoding, and nothing but an encoded text can be decoded: the bytes that are text are
exactly the encodings (`decode?_eq_some_iff`). So a path that is text is the path that its text names
(`Path.text?_eq_some_iff`), and different texts are different bytes (`encode_injective`).

A scan takes one byte at a time. The lemmas on `first` say what the first byte of a sequence announces;
the sequences of two, three and four bytes are then taken apart byte by byte.
-/

namespace KeywordDocs

namespace Utf8

variable {b : UInt8} {bs : Bytes} {p : Pending} {c : Char}

/-! ### The first byte of a sequence -/

theorem first_one (h : b.toNat < 0x80) : first b = .inl (.char (Char.ofNat b.toNat)) := by
  simp [first, h]

theorem first_two (h : 0xC2 ≤ b.toNat) (h' : b.toNat < 0xE0) :
    first b = .inr ⟨[b], b.toNat - 0xC0, 1, 0x80, 0xBF⟩ := by
  simp only [first]
  rw [if_neg (by omega), if_neg (by omega), if_pos h']

/-- The second byte of three excludes what fits into two bytes, and the surrogates. -/
theorem first_three (h : 0xE0 ≤ b.toNat) (h' : b.toNat < 0xF0) :
    ∃ low high, first b = .inr ⟨[b], b.toNat - 0xE0, 2, low, high⟩ ∧
      ∀ n, low ≤ n ∧ n ≤ high ↔ 0x80 ≤ n ∧ n ≤ 0xBF ∧
        (b.toNat = 0xE0 → 0xA0 ≤ n) ∧ (b.toNat = 0xED → n ≤ 0x9F) := by
  simp only [first, beq_iff_eq]
  rw [if_neg (by omega), if_neg (by omega), if_neg (by omega)]
  split
  · exact ⟨0xA0, 0xBF, by simp_all, by omega⟩
  · split
    · exact ⟨0x80, 0x9F, by simp_all, by omega⟩
    · exact ⟨0x80, 0xBF, rfl, by omega⟩

/-- The second byte of four excludes what fits into three bytes, and what is no code point. -/
theorem first_four (h : 0xF0 ≤ b.toNat) (h' : b.toNat < 0xF5) :
    ∃ low high, first b = .inr ⟨[b], b.toNat - 0xF0, 3, low, high⟩ ∧
      ∀ n, low ≤ n ∧ n ≤ high ↔ 0x80 ≤ n ∧ n ≤ 0xBF ∧
        (b.toNat = 0xF0 → 0x90 ≤ n) ∧ (b.toNat = 0xF4 → n ≤ 0x8F) := by
  simp only [first, beq_iff_eq]
  rw [if_neg (by omega), if_neg (by omega), if_neg (by omega), if_neg (by omega), if_neg (by omega),
    if_neg (by omega)]
  split
  · exact ⟨0x90, 0xBF, by simp_all, by omega⟩
  · split
    · exact ⟨0x80, 0xBF, rfl, by omega⟩
    · have hb : b.toNat = 0xF4 := by omega
      rw [if_pos hb]
      exact ⟨0x80, 0x8F, by rw [hb], by omega⟩

theorem first_bad (h : 0x80 ≤ b.toNat) (h' : b.toNat < 0xC2 ∨ 0xF5 ≤ b.toNat) :
    first b = .inl (.bad [b]) := by
  simp only [first, beq_iff_eq]
  rw [if_neg (by omega)]
  rcases h' with h' | h'
  · rw [if_pos h']
  · rw [if_neg (by omega), if_neg (by omega), if_neg (by omega), if_neg (by omega), if_neg (by omega),
      if_neg (by omega), if_neg (by omega), if_neg (by omega)]

/-! ### The bytes after it -/

section Pending

variable {seen : Bytes} {bits owed low high : Nat}

theorem scan_first (h : first b = .inr p) : scan none (b :: bs) = scan (some p) bs := by
  simp only [scan, h]

theorem scan_more (h : low ≤ b.toNat ∧ b.toNat ≤ high) :
    scan (some ⟨seen, bits, owed + 2, low, high⟩) (b :: bs) =
      scan (some ⟨seen ++ [b], bits * 64 + (b.toNat - 0x80), owed + 1, 0x80, 0xBF⟩) bs := by
  rw [scan, if_pos h, if_neg (by simp)]
  rfl

theorem scan_last (h : low ≤ b.toNat ∧ b.toNat ≤ high) :
    scan (some ⟨seen, bits, 1, low, high⟩) (b :: bs) =
      .char (Char.ofNat (bits * 64 + (b.toNat - 0x80))) :: scan none bs := by
  rw [scan, if_pos h, if_pos (Nat.le_refl 1)]

/-- Where all pieces are characters, a sequence that has begun goes on with a byte it may have. -/
theorem exists_next {cs : List Char}
    (h : (scan (some ⟨seen, bits, owed, low, high⟩) bs).mapM Piece.char? = some cs) :
    ∃ b rest, bs = b :: rest ∧ low ≤ b.toNat ∧ b.toNat ≤ high := by
  cases bs with
  | nil => simp [scan, Piece.char?] at h
  | cons b rest =>
    by_cases hb : low ≤ b.toNat ∧ b.toNat ≤ high
    · exact ⟨b, rest, rfl, hb⟩
    · rw [scan, if_neg hb] at h
      simp [List.mapM_cons, Piece.char?] at h

end Pending

theorem mapM_char {cs : List Char} (h : (.char c :: scan none bs).mapM Piece.char? = some cs) :
    ∃ rest, (scan none bs).mapM Piece.char? = some rest ∧ cs = c :: rest := by
  simp only [List.mapM_cons, Piece.char?, Option.bind_eq_bind, Option.bind_some,
    Option.bind_eq_some_iff, Option.pure_def, Option.some.injEq] at h
  obtain ⟨rest, hrest, rfl⟩ := h
  exact ⟨rest, hrest, rfl⟩

/-! ### The bytes of a character -/

theorem toNat_ofNat_of_valid {n : Nat} (h : n.isValidChar) : (Char.ofNat n).toNat = n := by
  rw [Char.ofNat, dif_pos h]
  rfl

theorem toNat_byte {n : Nat} (h : n < 256) : (UInt8.ofNat n).toNat = n :=
  UInt8.toNat_ofNat_of_lt h

/-- The scan takes the bytes of a character for the character. -/
theorem scan_encodeChar (c : Char) (bs : Bytes) :
    scan none (encodeChar c ++ bs) = .char c :: scan none bs := by
  have hvalid : c.toNat < 0xD800 ∨ 0xDFFF < c.toNat ∧ c.toNat < 0x110000 := c.valid
  have hc : ∀ n, n = c.toNat → Char.ofNat n = c := fun n hn => by rw [hn, Char.ofNat_toNat]
  simp only [encodeChar]
  split
  · have hb := toNat_byte (n := c.toNat) (by omega)
    simp only [List.cons_append, List.nil_append, scan]
    rw [first_one (by omega), hb, Char.ofNat_toNat]
  · split
    · have hb := toNat_byte (n := 0xC0 + c.toNat / 64) (by omega)
      have hb₁ := toNat_byte (n := 0x80 + c.toNat % 64) (by omega)
      simp only [List.cons_append, List.nil_append]
      rw [scan_first (first_two (by omega) (by omega)), scan_last (by omega), hb, hb₁,
        hc _ (by omega)]
    · split
      · have hb := toNat_byte (n := 0xE0 + c.toNat / 4096) (by omega)
        have hb₁ := toNat_byte (n := 0x80 + c.toNat / 64 % 64) (by omega)
        have hb₂ := toNat_byte (n := 0x80 + c.toNat % 64) (by omega)
        obtain ⟨low, high, hfirst, hrange⟩ := first_three (b := UInt8.ofNat (0xE0 + c.toNat / 4096))
          (by omega) (by omega)
        simp only [List.cons_append, List.nil_append]
        rw [scan_first hfirst, scan_more ((hrange _).mpr (by omega)), scan_last (by omega), hb, hb₁,
          hb₂, hc _ (by omega)]
      · have hb := toNat_byte (n := 0xF0 + c.toNat / 262144) (by omega)
        have hb₁ := toNat_byte (n := 0x80 + c.toNat / 4096 % 64) (by omega)
        have hb₂ := toNat_byte (n := 0x80 + c.toNat / 64 % 64) (by omega)
        have hb₃ := toNat_byte (n := 0x80 + c.toNat % 64) (by omega)
        obtain ⟨low, high, hfirst, hrange⟩ := first_four (b := UInt8.ofNat (0xF0 + c.toNat / 262144))
          (by omega) (by omega)
        simp only [List.cons_append, List.nil_append]
        rw [scan_first hfirst, scan_more ((hrange _).mpr (by omega)), scan_more (by omega),
          scan_last (by omega), hb, hb₁, hb₂, hb₃, hc _ (by omega)]

/-- The bytes of a character are those that it has in a string. -/
theorem encodeChar_eq (c : Char) : encodeChar c = String.utf8EncodeChar c := by
  have hvalid : c.toNat < 0xD800 ∨ 0xDFFF < c.toNat ∧ c.toNat < 0x110000 := c.valid
  simp only [encodeChar, String.utf8EncodeChar, Char.toNat_val, Nat.lt_succ_iff]
  -- The bits of the first byte are masked there; the number of the character has no others.
  split_ifs with hone htwo hthree
  · rfl
  · have hlead : c.toNat / 64 % 32 = c.toNat / 64 := Nat.mod_eq_of_lt (by omega)
    simp only [hlead, Nat.add_comm]
  · have hlead : c.toNat / 4096 % 16 = c.toNat / 4096 := Nat.mod_eq_of_lt (by omega)
    simp only [hlead, Nat.add_comm]
  · have hlead : c.toNat / 262144 % 8 = c.toNat / 262144 := Nat.mod_eq_of_lt (by omega)
    simp only [hlead, Nat.add_comm]

/-- The byte that a number is. -/
theorem ofNat_eq {n : Nat} (h : n = b.toNat) : UInt8.ofNat n = b := by
  rw [h, UInt8.ofNat_toNat]

section Bytes

variable {b₁ b₂ b₃ : UInt8}

theorem exists_encodeChar_one (h : b.toNat < 0x80) : ∃ c, encodeChar c = [b] := by
  have hc := toNat_ofNat_of_valid (n := b.toNat) (by omega)
  refine ⟨Char.ofNat b.toNat, ?_⟩
  simp only [encodeChar, hc]
  rw [if_pos h, UInt8.ofNat_toNat]

theorem exists_encodeChar_two (h : 0xC2 ≤ b.toNat ∧ b.toNat < 0xE0)
    (h₁ : 0x80 ≤ b₁.toNat ∧ b₁.toNat ≤ 0xBF) : ∃ c, encodeChar c = [b, b₁] := by
  have hc := toNat_ofNat_of_valid (n := (b.toNat - 0xC0) * 64 + (b₁.toNat - 0x80)) (by omega)
  refine ⟨Char.ofNat ((b.toNat - 0xC0) * 64 + (b₁.toNat - 0x80)), ?_⟩
  simp only [encodeChar, hc]
  rw [if_neg (by omega), if_pos (by omega), ofNat_eq (b := b) (by omega),
    ofNat_eq (b := b₁) (by omega)]

theorem exists_encodeChar_three (h : 0xE0 ≤ b.toNat ∧ b.toNat < 0xF0)
    (h₁ : 0x80 ≤ b₁.toNat ∧ b₁.toNat ≤ 0xBF ∧ (b.toNat = 0xE0 → 0xA0 ≤ b₁.toNat) ∧
      (b.toNat = 0xED → b₁.toNat ≤ 0x9F))
    (h₂ : 0x80 ≤ b₂.toNat ∧ b₂.toNat ≤ 0xBF) : ∃ c, encodeChar c = [b, b₁, b₂] := by
  have hc := toNat_ofNat_of_valid
    (n := ((b.toNat - 0xE0) * 64 + (b₁.toNat - 0x80)) * 64 + (b₂.toNat - 0x80)) (by omega)
  refine ⟨Char.ofNat (((b.toNat - 0xE0) * 64 + (b₁.toNat - 0x80)) * 64 + (b₂.toNat - 0x80)), ?_⟩
  simp only [encodeChar, hc]
  rw [if_neg (by omega), if_neg (by omega), if_pos (by omega), ofNat_eq (b := b) (by omega),
    ofNat_eq (b := b₁) (by omega), ofNat_eq (b := b₂) (by omega)]

theorem exists_encodeChar_four (h : 0xF0 ≤ b.toNat ∧ b.toNat < 0xF5)
    (h₁ : 0x80 ≤ b₁.toNat ∧ b₁.toNat ≤ 0xBF ∧ (b.toNat = 0xF0 → 0x90 ≤ b₁.toNat) ∧
      (b.toNat = 0xF4 → b₁.toNat ≤ 0x8F))
    (h₂ : 0x80 ≤ b₂.toNat ∧ b₂.toNat ≤ 0xBF) (h₃ : 0x80 ≤ b₃.toNat ∧ b₃.toNat ≤ 0xBF) :
    ∃ c, encodeChar c = [b, b₁, b₂, b₃] := by
  have hc := toNat_ofNat_of_valid (n := (((b.toNat - 0xF0) * 64 + (b₁.toNat - 0x80)) * 64 +
    (b₂.toNat - 0x80)) * 64 + (b₃.toNat - 0x80)) (by omega)
  refine ⟨Char.ofNat ((((b.toNat - 0xF0) * 64 + (b₁.toNat - 0x80)) * 64 + (b₂.toNat - 0x80)) * 64 +
    (b₃.toNat - 0x80)), ?_⟩
  simp only [encodeChar, hc]
  rw [if_neg (by omega), if_neg (by omega), if_neg (by omega), ofNat_eq (b := b) (by omega),
    ofNat_eq (b := b₁) (by omega), ofNat_eq (b := b₂) (by omega), ofNat_eq (b := b₃) (by omega)]

end Bytes

/-- Bytes that the scan takes for characters only begin with the bytes of a character. -/
theorem exists_encodeChar {cs : List Char} (hne : bs ≠ [])
    (h : (scan none bs).mapM Piece.char? = some cs) : ∃ c rest, bs = encodeChar c ++ rest := by
  obtain ⟨b, bs, rfl⟩ := List.exists_cons_of_ne_nil hne
  by_cases one : b.toNat < 0x80
  · obtain ⟨c, hc⟩ := exists_encodeChar_one one
    exact ⟨c, bs, by rw [hc]; rfl⟩
  · by_cases bad : b.toNat < 0xC2 ∨ 0xF5 ≤ b.toNat
    · simp [scan, first_bad (by omega) bad, List.mapM_cons, Piece.char?] at h
    · by_cases two : b.toNat < 0xE0
      · rw [scan_first (first_two (by omega) two)] at h
        obtain ⟨b₁, rest, rfl, h₁⟩ := exists_next h
        obtain ⟨c, hc⟩ := exists_encodeChar_two (b := b) (by omega) h₁
        exact ⟨c, rest, by rw [hc]; rfl⟩
      · by_cases three : b.toNat < 0xF0
        · obtain ⟨low, high, hfirst, hrange⟩ := first_three (by omega) three
          rw [scan_first hfirst] at h
          obtain ⟨b₁, rest, rfl, h₁⟩ := exists_next h
          rw [scan_more h₁] at h
          obtain ⟨b₂, rest, rfl, h₂⟩ := exists_next h
          obtain ⟨c, hc⟩ := exists_encodeChar_three (b := b) (by omega) ((hrange _).mp h₁) h₂
          exact ⟨c, rest, by rw [hc]; rfl⟩
        · obtain ⟨low, high, hfirst, hrange⟩ := first_four (b := b) (by omega) (by omega)
          rw [scan_first hfirst] at h
          obtain ⟨b₁, rest, rfl, h₁⟩ := exists_next h
          rw [scan_more h₁] at h
          obtain ⟨b₂, rest, rfl, h₂⟩ := exists_next h
          rw [scan_more h₂] at h
          obtain ⟨b₃, rest, rfl, h₃⟩ := exists_next h
          obtain ⟨c, hc⟩ := exists_encodeChar_four (b := b) (by omega) ((hrange _).mp h₁) h₂ h₃
          exact ⟨c, rest, by rw [hc]; rfl⟩

/-! ### Texts -/

theorem mapM_scan_flatMap (cs : List Char) :
    (scan none (cs.flatMap encodeChar)).mapM Piece.char? = some cs := by
  induction cs with
  | nil => rfl
  | cons c cs ih => simp [List.flatMap_cons, scan_encodeChar, List.mapM_cons, Piece.char?, ih]

theorem eq_flatMap_of_mapM_scan {cs : List Char} (h : (scan none bs).mapM Piece.char? = some cs) :
    bs = cs.flatMap encodeChar := by
  -- On the characters: each of them stands for the bytes in front.
  induction cs generalizing bs with
  | nil =>
    by_contra hne
    obtain ⟨c, rest, rfl⟩ := exists_encodeChar hne h
    rw [scan_encodeChar] at h
    obtain ⟨_, _, hcs⟩ := mapM_char h
    cases hcs
  | cons c cs ih =>
    have hne : bs ≠ [] := by
      rintro rfl
      cases h
    obtain ⟨c', rest, rfl⟩ := exists_encodeChar hne h
    rw [scan_encodeChar] at h
    obtain ⟨cs', hrest, hcs⟩ := mapM_char h
    obtain ⟨rfl, rfl⟩ := List.cons.inj hcs
    rw [List.flatMap_cons, ← ih hrest]

/-- **The bytes that are text are the encodings of texts.** -/
theorem decode?_eq_some_iff {s : String} : decode? bs = some s ↔ bs = encode s := by
  rw [decode?, pieces, Option.map_eq_some_iff, encode]
  constructor
  · rintro ⟨cs, hcs, rfl⟩
    rw [String.toList_ofList]
    exact eq_flatMap_of_mapM_scan hcs
  · rintro rfl
    exact ⟨s.toList, mapM_scan_flatMap s.toList, String.ofList_toList⟩

theorem decode?_encode (s : String) : decode? (encode s) = some s := decode?_eq_some_iff.mpr rfl

/-- Different texts are different bytes. -/
theorem encode_injective : Function.Injective encode := by
  intro s t h
  have hs := decode?_encode s
  rw [h, decode?_encode] at hs
  exact (Option.some.inj hs).symm

theorem encode_append (s t : String) : encode (s ++ t) = encode s ++ encode t := by
  simp [encode]

/-- The bytes of a text are those that the string is kept in. -/
theorem encode_eq_toByteArray (s : String) : encode s = s.toByteArray.data.toList := by
  rw [← String.utf8Encode_toList, List.utf8Encode, List.data_toByteArray, List.toList_toArray, encode,
    funext encodeChar_eq]

theorem encode_intercalate_newline (lines : List String) :
    encode ("\n".intercalate lines) = Text.join 10 (lines.map encode) := by
  induction lines with
  | nil => rfl
  | cons line lines ih =>
    cases lines with
    | nil =>
      rw [String.intercalate_singleton]
      rfl
    | cons next lines =>
      rw [String.intercalate_cons_cons, encode_append, encode_append, ih, List.append_assoc]
      rfl

/-- A byte below 128 stands for a character of its own, and for nothing else. -/
theorem mem_encodeChar_iff (h : b.toNat < 0x80) : b ∈ encodeChar c ↔ c.toNat = b.toNat := by
  have hbyte : ∀ n, n < 256 → (b = UInt8.ofNat n ↔ b.toNat = n) := fun n hn => by
    rw [← UInt8.toNat_inj, toNat_byte hn]
  have hvalid : c.toNat < 0xD800 ∨ 0xDFFF < c.toNat ∧ c.toNat < 0x110000 := c.valid
  simp only [encodeChar]
  split
  · rw [List.mem_singleton, hbyte _ (by omega)]
    exact eq_comm
  · split
    · rw [List.mem_pair, hbyte _ (by omega), hbyte _ (by omega)]
      omega
    · split
      · simp only [List.mem_cons, List.not_mem_nil, or_false]
        rw [hbyte _ (by omega), hbyte _ (by omega), hbyte _ (by omega)]
        omega
      · simp only [List.mem_cons, List.not_mem_nil, or_false]
        rw [hbyte _ (by omega), hbyte _ (by omega), hbyte _ (by omega), hbyte _ (by omega)]
        omega

theorem mem_encode_iff (h : b.toNat < 0x80) {s : String} (hc : c.toNat = b.toNat) :
    b ∈ encode s ↔ c ∈ s.toList := by
  rw [encode, List.mem_flatMap]
  constructor
  · rintro ⟨d, hd, hb⟩
    have hdc : d = c := Char.toNat_inj.mp (((mem_encodeChar_iff h).mp hb).trans hc.symm)
    exact hdc ▸ hd
  · intro hmem
    exact ⟨c, hmem, (mem_encodeChar_iff h).mpr hc⟩

end Utf8

/-- A path that is text is the path that the text names. -/
theorem Path.text?_eq_some_iff {p : Path} {s : String} : p.text? = some s ↔ p = .ofString s := by
  rw [text?, Utf8.decode?_eq_some_iff, ofString]
  exact ⟨fun h => by rw [← h], fun h => by rw [h]⟩

end KeywordDocs
