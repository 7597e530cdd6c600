import KeywordDocs.Json.Decode

/-!
# The terms of written values

The text of a value without numbers is taken apart into the term of that value, in both layouts
(`termOfString?_render`). That is done by two machines, one that cuts the text into tokens and one
that builds a term from tokens. They are taken together here: `feed` is what becomes of a builder
when it is given a text. A written string, word or mark is one step of the builder whatever follows
(`feed_of_token`), and a written value takes the builder from the place where it awaits a value to
the place behind that value (`fedBy_of_plain`).
-/

namespace KeywordDocs.Json

/-! ### Characters and tokens -/

section Scan

variable {c : Char} {s s' : Scan} {t : Token} {cs : List Char}

theorem scanFrom_cons (s : Scan) (c : Char) (cs : List Char) :
    scanFrom s (c :: cs) = (step c s).bind fun next => (scanFrom next.1 cs).map (next.2 ++ ·) := by
  rw [scanFrom]
  cases step c s with
  | none => rfl
  | some next =>
    cases h : scanFrom next.1 cs with
    | none => simp [h]
    | some ts => simp [h]

theorem scanFrom_of_step (h : step c s = some (s', [])) : scanFrom s (c :: cs) = scanFrom s' cs := by
  rw [scanFrom_cons, h]
  exact Option.map_id'

theorem scanFrom_of_token (h : step c s = some (s', [t])) :
    scanFrom s (c :: cs) = (scanFrom s' cs).map (t :: ·) := by
  rw [scanFrom_cons, h]
  rfl

end Scan

theorem hexValue?_digitChar : ∀ d < 16, hexValue? (Nat.digitChar d) = some d := by decide

/-- A control character is escaped with four digits, the first two of them zeros. -/
theorem scanFrom_controlEscape {c : Char} (reversed : List Char) (hcontrol : c.toNat < 32)
    (rest : List Char) :
    scanFrom (.quoted ⟨reversed, none, true⟩) (controlEscape c.toNat ++ rest) =
      scanFrom (.quoted ⟨c :: reversed, none, true⟩) rest := by
  have hhigh := hexValue?_digitChar (c.toNat / 16) (by omega)
  have hlow := hexValue?_digitChar (c.toNat % 16) (by omega)
  have hunit : (Partial.mk reversed none true).pushUnit (c.toNat / 16 * 16 + c.toNat % 16) =
      ⟨c :: reversed, none, true⟩ := by
    rw [show c.toNat / 16 * 16 + c.toNat % 16 = c.toNat by omega, Partial.pushUnit]
    dsimp only
    rw [if_neg (by omega), if_neg (by omega), Char.ofNat_toNat]
  have hfirst : step (Nat.digitChar (c.toNat / 16)) (.hex ⟨reversed, none, true⟩ 0 2) =
      some (.hex ⟨reversed, none, true⟩ (c.toNat / 16) 1, []) := by
    simp [step, hhigh]
  have hsecond : step (Nat.digitChar (c.toNat % 16)) (.hex ⟨reversed, none, true⟩ (c.toNat / 16) 1) =
      some (.quoted ⟨c :: reversed, none, true⟩, []) := by
    simp [step, hlow, hunit]
  calc
    _ = scanFrom (.hex ⟨reversed, none, true⟩ 0 2)
        (Nat.digitChar (c.toNat / 16) :: Nat.digitChar (c.toNat % 16) :: rest) := by
      rw [controlEscape]
      exact (scanFrom_of_step rfl).trans ((scanFrom_of_step rfl).trans
        ((scanFrom_of_step rfl).trans (scanFrom_of_step rfl)))
    _ = scanFrom (.quoted ⟨c :: reversed, none, true⟩) rest := by
      rw [scanFrom_of_step hfirst, scanFrom_of_step hsecond]

/-- What follows an escaped character is read after that character. -/
theorem scanFrom_escapeChar (reversed : List Char) (c : Char) (rest : List Char) :
    scanFrom (.quoted ⟨reversed, none, true⟩) (escapeChar c ++ rest) =
      scanFrom (.quoted ⟨c :: reversed, none, true⟩) rest := by
  -- A backslash and the letter of a short escape.
  have hshort : ∀ letter, letter ≠ 'u' → shortEscape? letter = some c →
      scanFrom (.quoted ⟨reversed, none, true⟩) ('\\' :: letter :: rest) =
        scanFrom (.quoted ⟨c :: reversed, none, true⟩) rest := by
    intro letter hletter hescape
    have hbackslash : step '\\' (.quoted ⟨reversed, none, true⟩) =
        some (.escape ⟨reversed, none, true⟩, []) := rfl
    rw [scanFrom_of_step hbackslash]
    refine scanFrom_of_step ?_
    rw [step, if_neg hletter, hescape]
    rfl
  have hcode : ∀ n, c.toNat = n → c = Char.ofNat n := by
    rintro n rfl
    exact (Char.ofNat_toNat c).symm
  unfold escapeChar
  split
  · subst c
    exact hshort '"' (by decide) rfl
  split
  · subst c
    exact hshort '\\' (by decide) rfl
  split
  · rename_i h
    exact hshort 'b' (by decide) (by rw [hcode 8 h]; rfl)
  split
  · rename_i h
    exact hshort 'f' (by decide) (by rw [hcode 12 h]; rfl)
  split
  · subst c
    exact hshort 'n' (by decide) rfl
  split
  · subst c
    exact hshort 'r' (by decide) rfl
  split
  · subst c
    exact hshort 't' (by decide) rfl
  split
  · rename_i hcontrol
    exact scanFrom_controlEscape reversed hcontrol rest
  · rename_i hquote hbackslash _ _ _ _ _ hcontrol
    refine scanFrom_of_step ?_
    rw [step, if_neg hquote, if_neg hbackslash, if_neg hcontrol]
    rfl

/-- A written string is one token. -/
theorem scanFrom_quote (s : String) (rest : List Char) :
    scanFrom .between (quote s ++ rest) =
      (scanFrom .between rest).map (.string (some s) :: ·) := by
  have hchars : ∀ (cs reversed : List Char),
      scanFrom (.quoted ⟨reversed, none, true⟩) (cs.flatMap escapeChar ++ '"' :: rest) =
        (scanFrom .between rest).map (.string (some (String.ofList (reversed.reverse ++ cs))) :: ·) := by
    intro cs
    induction cs with
    | nil =>
      intro reversed
      rw [List.append_nil]
      exact scanFrom_of_token rfl
    | cons c cs ih =>
      intro reversed
      rw [List.flatMap_cons, List.append_assoc, scanFrom_escapeChar, ih, List.reverse_cons,
        List.append_assoc]
      rfl
  have hquote := hchars s.toList []
  rw [List.reverse_nil, List.nil_append, String.ofList_toList] at hquote
  rw [quote, List.cons_append, List.append_assoc, ← hquote]
  exact scanFrom_of_step rfl

/-- Does a word end where the character comes? -/
def endsWord (c : Char) : Bool := isGap c || c = '"' || (mark? c).isSome

/-- The text is at its end, or goes on with something that ends a word. -/
def Breaks : List Char → Prop
  | [] => True
  | c :: _ => endsWord c = true

theorem step_word_of_ends {c : Char} (h : endsWord c = true) (reversed : List Char) :
    step c (.word reversed) = (wordToken? reversed.reverse).bind fun t =>
      some ((beginToken c).1, t :: (beginToken c).2) := by
  simp only [endsWord, Bool.or_eq_true, decide_eq_true_eq, or_assoc] at h
  rw [step, if_pos h]
  rfl

/-- The letters of a word are read up to its end. -/
theorem scanFrom_letters {word : List Char} (h : ∀ c ∈ word, endsWord c = false)
    (reversed rest : List Char) :
    scanFrom (.word reversed) (word ++ rest) = scanFrom (.word (word.reverse ++ reversed)) rest := by
  induction word generalizing reversed with
  | nil => rfl
  | cons c word ih =>
    have hletter := h c List.mem_cons_self
    simp only [endsWord, Bool.or_eq_false_iff, decide_eq_false_iff_not] at hletter
    have hstep : step c (.word reversed) = some (.word (c :: reversed), []) := by
      simp [step, hletter]
    rw [List.cons_append, scanFrom_of_step hstep, ih fun d hd => h d (List.mem_cons_of_mem c hd),
      List.reverse_cons, List.append_assoc]
    rfl

/-- A word ends where the text breaks. -/
theorem scanFrom_break (reversed : List Char) {rest : List Char} (h : Breaks rest) :
    scanFrom (.word reversed) rest =
      (wordToken? reversed.reverse).bind fun t => (scanFrom .between rest).map (t :: ·) := by
  cases rest with
  | nil =>
    cases hword : wordToken? reversed.reverse with
    | none => simp [scanFrom, hword]
    | some t => simp [scanFrom, hword]
  | cons c cs =>
    rw [scanFrom_cons, scanFrom_cons, step_word_of_ends h, step]
    cases hword : wordToken? reversed.reverse with
    | none => rfl
    | some t =>
      cases hrest : scanFrom (beginToken c).1 cs with
      | none => simp [hrest]
      | some ts => simp [hrest]

/-- A word that is a token, with a break behind it. -/
theorem scanFrom_word {c : Char} {word rest : List Char} {t : Token}
    (h : ∀ d ∈ c :: word, endsWord d = false) (hword : wordToken? (c :: word) = some t)
    (hrest : Breaks rest) :
    scanFrom .between (c :: word ++ rest) = (scanFrom .between rest).map (t :: ·) := by
  have hfirst := h c List.mem_cons_self
  simp only [endsWord, Bool.or_eq_false_iff, decide_eq_false_iff_not, Option.isSome_eq_false_iff,
    Option.isNone_iff_eq_none] at hfirst
  have hstep : step c .between = some (.word [c], []) := by
    simp [step, beginToken, hfirst]
  rw [List.cons_append, scanFrom_of_step hstep,
    scanFrom_letters fun d hd => h d (List.mem_cons_of_mem c hd), scanFrom_break _ hrest,
    List.reverse_append, List.reverse_reverse]
  change (wordToken? (c :: word)).bind _ = _
  rw [hword]
  rfl

/-! ### Feeding a builder -/

/-- What becomes of a builder when it is given a text. -/
def feed (b : Builder) (cs : List Char) : Option Builder := (scanFrom .between cs).bind b.run

section Feed

variable {b : Builder} {t : Token} {c : Char} {cs : List Char}

/-- A text that begins with a token takes the builder one step further. -/
theorem feed_of_token {text : List Char}
    (h : scanFrom .between text = (scanFrom .between cs).map (t :: ·)) :
    feed b text = (b.step t).bind (feed · cs) := by
  unfold feed
  rw [h]
  cases scanFrom .between cs with
  | none => simp
  | some ts => rfl

theorem feed_quote (s : String) (cs : List Char) :
    feed b (quote s ++ cs) = (b.step (.string (some s))).bind (feed · cs) :=
  feed_of_token (scanFrom_quote s cs)

theorem feed_mark (h : mark? c = some t) : feed b (c :: cs) = (b.step t).bind (feed · cs) := by
  have hgap : isGap c = false := by
    cases hgap : isGap c with
    | false => rfl
    | true =>
      simp only [isGap, Bool.or_eq_true, decide_eq_true_eq] at hgap
      rcases hgap with ((rfl | rfl) | rfl) | rfl
      · cases h
      · cases h
      · cases h
      · cases h
  have hquote : c ≠ '"' := by
    rintro rfl
    cases h
  refine feed_of_token (scanFrom_of_token ?_)
  simp [step, beginToken, hgap, hquote, h]

theorem feed_gaps {gaps : List Char} (h : ∀ c ∈ gaps, isGap c = true) (cs : List Char) :
    feed b (gaps ++ cs) = feed b cs := by
  induction gaps with
  | nil => rfl
  | cons c gaps ih =>
    have hstep : step c .between = some (.between, []) := by
      rw [step, beginToken, if_pos (h c List.mem_cons_self)]
    rw [List.cons_append, feed, scanFrom_of_step hstep]
    exact ih fun d hd => h d (List.mem_cons_of_mem c hd)

theorem isGap_of_mem_lineBreak {layout : Layout} {level : Nat} (h : c ∈ layout.lineBreak level) :
    isGap c = true := by
  cases layout with
  | compact => cases h
  | pretty =>
    rcases List.mem_cons.mp h with rfl | h
    · rfl
    · rw [List.eq_of_mem_replicate h]
      rfl

theorem feed_lineBreak (layout : Layout) (level : Nat) (cs : List Char) :
    feed b (layout.lineBreak level ++ cs) = feed b cs :=
  feed_gaps (fun _ => isGap_of_mem_lineBreak) cs

theorem feed_colon (layout : Layout) (cs : List Char) :
    feed b (layout.colon ++ cs) = (b.step .colon).bind (feed · cs) := by
  cases layout with
  | compact => exact feed_mark rfl
  | pretty =>
    have hblank : ∀ d ∈ [' '], isGap d = true := List.forall_mem_singleton.mpr rfl
    have hgap : ∀ b : Builder, feed b (' ' :: cs) = feed b cs := fun b => feed_gaps hblank cs
    exact (feed_mark rfl).trans (congrArg (Option.bind _) (funext hgap))

theorem breaks_lineBreak (layout : Layout) (level : Nat) (h : Breaks cs) :
    Breaks (layout.lineBreak level ++ cs) := by
  cases layout with
  | compact => exact h
  | pretty => rfl

end Feed

/-! ### Values -/

mutual

/-- The term that a value is written as. -/
def toTerm : Json → Term
  | .null => .null
  | .bool b => .bool b
  | .number n => .number ((Numeral.ofChars? n.chars).getD ⟨false, [], none, none⟩)
  | .string s => .string (some s)
  | .array items => .array (itemTerms items)
  | .object members => .object (memberTerms members)

/-- The terms of the items of an array. -/
def itemTerms : List Json → List Term
  | [] => []
  | item :: items => toTerm item :: itemTerms items

/-- The terms of the members of an object. -/
def memberTerms : List (String × Json) → List (Option String × Term)
  | [] => []
  | member :: members => memberTerm member :: memberTerms members

/-- The term of a member of an object. -/
def memberTerm : String × Json → Option String × Term
  | (name, value) => (some name, toTerm value)

end

theorem itemTerms_eq_map (items : List Json) : itemTerms items = items.map toTerm := by
  induction items with
  | nil => rfl
  | cons item items ih => rw [itemTerms, ih, List.map_cons]

theorem memberTerms_eq_map (members : List (String × Json)) :
    memberTerms members = members.map fun m => (some m.1, m.2.toTerm) := by
  induction members with
  | nil => rfl
  | cons member members ih =>
    obtain ⟨name, value⟩ := member
    rw [memberTerms, memberTerm, ih, List.map_cons]

/-- A value without numbers whose arrays and objects are nested at most `depth` times. -/
inductive Plain : Nat → Json → Prop
  | null {depth : Nat} : Plain depth .null
  | bool {depth : Nat} (b : Bool) : Plain depth (.bool b)
  | string {depth : Nat} (s : String) : Plain depth (.string s)
  | array {depth : Nat} {items : List Json} (items_plain : ∀ v ∈ items, Plain depth v) :
      Plain (depth + 1) (.array items)
  | object {depth : Nat} {members : List (String × Json)}
      (members_plain : ∀ m ∈ members, Plain depth m.2) : Plain (depth + 1) (.object members)

/-- The builder takes each token, but for the end of an array, as the first one of a value. -/
def Awaits (b : Builder) (stack : List Frame) : Prop :=
  ∀ t, t ≠ .closeArray → b.step t = Builder.takeValue stack t

/-- The builder takes each string as a name of a member. -/
def AwaitsName (b : Builder) (stack : List Frame) (reversed : List (Option String × Term)) : Prop :=
  ∀ name, b.step (.string name) = some ⟨stack, .colon reversed name⟩

/-- A builder that awaits a value and is given the text of this value is behind it afterwards. -/
def FedBy (layout : Layout) (v : Json) : Prop :=
  ∀ (level : Nat) (b : Builder) (stack : List Frame) (rest : List Char), Awaits b stack → Breaks rest →
    feed b (v.render layout level ++ rest) = feed ⟨stack, .next v.toTerm⟩ rest

theorem awaits_value (stack : List Frame) : Awaits ⟨stack, .value⟩ stack := fun _ _ => rfl

theorem awaits_firstItem (stack : List Frame) : Awaits ⟨stack, .firstItem⟩ (.array [] :: stack) := by
  intro t ht
  exact if_neg ht

section Values

variable {layout : Layout} {level outer : Nat} {stack : List Frame} {rest : List Char}

theorem breaks_items {items : List Json} (h : Breaks rest) :
    Breaks (renderItems layout level items ++ rest) := by
  cases items with
  | nil => exact h
  | cons item items => rfl

theorem breaks_members {members : List (String × Json)} (h : Breaks rest) :
    Breaks (renderMembers layout level members ++ rest) := by
  cases members with
  | nil => exact h
  | cons member members => rfl

theorem breaks_close {c : Char} (h : endsWord c = true) :
    Breaks (layout.lineBreak outer ++ c :: rest) :=
  breaks_lineBreak layout outer h

/-- The other items of an array, and its end. -/
theorem feed_items {items : List Json} (h : ∀ v ∈ items, FedBy layout v) (level outer : Nat)
    (stack : List Frame) (t : Term) (reversed : List Term) (rest : List Char) :
    feed ⟨.array reversed :: stack, .next t⟩
        (renderItems layout level items ++ (layout.lineBreak outer ++ ']' :: rest)) =
      feed ⟨stack, .next (.array ((t :: reversed).reverse ++ items.map toTerm))⟩ rest := by
  induction items generalizing t reversed with
  | nil =>
    rw [renderItems, List.nil_append, feed_lineBreak, feed_mark (t := .closeArray) rfl, List.map_nil,
      List.append_nil]
    rfl
  | cons item items ih =>
    have hitem := h item List.mem_cons_self level ⟨.array (t :: reversed) :: stack, .value⟩
      (.array (t :: reversed) :: stack)
      (renderItems layout level items ++ (layout.lineBreak outer ++ ']' :: rest)) (awaits_value _)
      (breaks_items (breaks_close rfl))
    have hrest := ih (fun v hv => h v (List.mem_cons_of_mem item hv)) item.toTerm (t :: reversed)
    rw [renderItems, List.cons_append, feed_mark (t := .comma) rfl, List.append_assoc, List.append_assoc]
    change feed ⟨.array (t :: reversed) :: stack, .value⟩ _ = _
    rw [feed_lineBreak, hitem, hrest, List.reverse_cons, List.append_assoc, List.map_cons]
    rfl

/-- A member of an object. -/
theorem feed_member {v : Json} (h : FedBy layout v) (level : Nat) (name : String) {b : Builder}
    {reversed : List (Option String × Term)} (hb : AwaitsName b stack reversed) (hrest : Breaks rest) :
    feed b (renderMember layout level (name, v) ++ rest) =
      feed ⟨.object reversed (some name) :: stack, .next v.toTerm⟩ rest := by
  rw [renderMember, List.append_assoc, List.append_assoc, feed_quote, hb]
  change feed ⟨stack, .colon reversed (some name)⟩ _ = _
  rw [feed_colon]
  exact h level _ _ rest (awaits_value _) hrest

/-- The other members of an object, and its end. -/
theorem feed_members {members : List (String × Json)} (h : ∀ m ∈ members, FedBy layout m.2)
    (level outer : Nat) (stack : List Frame) (name : Option String) (t : Term)
    (reversed : List (Option String × Term)) (rest : List Char) :
    feed ⟨.object reversed name :: stack, .next t⟩
        (renderMembers layout level members ++ (layout.lineBreak outer ++ '\x7d' :: rest)) =
      feed ⟨stack, .next (.object (((name, t) :: reversed).reverse ++
        members.map fun m => (some m.1, m.2.toTerm)))⟩ rest := by
  induction members generalizing name t reversed with
  | nil =>
    rw [renderMembers, List.nil_append, feed_lineBreak, feed_mark (t := .closeObject) rfl, List.map_nil,
      List.append_nil]
    rfl
  | cons member members ih =>
    obtain ⟨n, v⟩ := member
    have hbreaks : Breaks (renderMembers layout level members ++
        (layout.lineBreak outer ++ '\x7d' :: rest)) := breaks_members (breaks_close rfl)
    have hname : AwaitsName ⟨stack, .name ((name, t) :: reversed)⟩ stack ((name, t) :: reversed) :=
      fun _ => rfl
    have hmember := feed_member (h (n, v) List.mem_cons_self) level n hname hbreaks
    have hrest := ih (fun m hm => h m (List.mem_cons_of_mem (n, v) hm)) (some n) v.toTerm
      ((name, t) :: reversed)
    rw [renderMembers, List.cons_append, feed_mark (t := .comma) rfl, List.append_assoc,
      List.append_assoc]
    change feed ⟨stack, .name ((name, t) :: reversed)⟩ _ = _
    rw [feed_lineBreak, hmember, hrest, List.reverse_cons, List.append_assoc, List.map_cons]
    rfl

/-- A word that is a value. -/
theorem fedBy_word {v : Json} {c : Char} {word : List Char} {t : Token}
    (hrender : ∀ level, v.render layout level = c :: word)
    (hletters : (c :: word).all (!endsWord ·) = true) (hword : wordToken? (c :: word) = some t)
    (hvalue : ∀ stack, Builder.takeValue stack t = some ⟨stack, .next v.toTerm⟩)
    (hclose : t ≠ .closeArray) : FedBy layout v := by
  intro level b stack rest hb hrest
  have hall : ∀ d ∈ c :: word, endsWord d = false := fun d hd => by
    simpa using List.all_eq_true.mp hletters d hd
  rw [hrender, feed_of_token (scanFrom_word hall hword hrest), hb t hclose, hvalue]
  rfl

/-- A written value takes a builder behind it. -/
theorem fedBy_of_plain {depth : Nat} {v : Json} (plain : Plain depth v) (layout : Layout) :
    FedBy layout v := by
  induction plain with
  | null => exact fedBy_word (fun _ => rfl) rfl rfl (fun _ => rfl) (by decide)
  | bool value =>
    cases value with
    | true => exact fedBy_word (fun _ => rfl) rfl rfl (fun _ => rfl) (by decide)
    | false => exact fedBy_word (fun _ => rfl) rfl rfl (fun _ => rfl) (by decide)
  | string s =>
    intro level b stack rest hb _
    rw [render, feed_quote, hb _ (fun h => by cases h), toTerm]
    rfl
  | @array _ items _ ih =>
    intro level b stack rest hb _
    cases items with
    | nil =>
      rw [render, List.cons_append, feed_mark (t := .openArray) rfl, hb _ (by decide)]
      exact feed_mark (b := ⟨stack, .firstItem⟩) (t := .closeArray) rfl
    | cons item items =>
      have hitem := ih item List.mem_cons_self (level + 1) ⟨stack, .firstItem⟩ (.array [] :: stack)
        (renderItems layout (level + 1) items ++ (layout.lineBreak level ++ ']' :: rest))
        (awaits_firstItem stack) (breaks_items (breaks_close rfl))
      have hrest := feed_items (fun v hv => ih v (List.mem_cons_of_mem item hv)) (level + 1) level stack
        item.toTerm [] rest
      rw [render, List.append_assoc, List.append_assoc, List.cons_append,
        feed_mark (t := .openArray) rfl, hb _ (by decide)]
      change feed ⟨stack, .firstItem⟩ _ = _
      rw [List.append_assoc, List.append_assoc, feed_lineBreak]
      exact hitem.trans (hrest.trans (by rw [toTerm, itemTerms_eq_map]; rfl))
  | @object _ members _ ih =>
    intro level b stack rest hb _
    cases members with
    | nil =>
      rw [render, List.cons_append, feed_mark (t := .openObject) rfl, hb _ (by decide)]
      exact feed_mark (b := ⟨stack, .firstName⟩) (t := .closeObject) rfl
    | cons member members =>
      obtain ⟨name, value⟩ := member
      have hbreaks : Breaks (renderMembers layout (level + 1) members ++
          (layout.lineBreak level ++ '\x7d' :: rest)) := breaks_members (breaks_close rfl)
      have hname : AwaitsName ⟨stack, .firstName⟩ stack [] := fun _ => rfl
      have hmember := feed_member (ih (name, value) List.mem_cons_self) (level + 1) name hname hbreaks
      have hrest := feed_members (fun m hm => ih m (List.mem_cons_of_mem (name, value) hm)) (level + 1)
        level stack (some name) value.toTerm [] rest
      rw [render, List.append_assoc, List.append_assoc, List.cons_append,
        feed_mark (t := .openObject) rfl, hb _ (by decide)]
      change feed ⟨stack, .firstName⟩ _ = _
      rw [List.append_assoc, List.append_assoc, feed_lineBreak]
      exact hmember.trans (hrest.trans (by rw [toTerm, memberTerms_eq_map]; rfl))

end Values

/-- **A value is read back from its text as its term**, in both layouts. -/
theorem termOfString?_render {depth : Nat} {v : Json} (plain : Plain depth v) (layout : Layout) :
    Term.ofString? (String.ofList (v.render layout 0)) = some v.toTerm := by
  have hfeed := fedBy_of_plain plain layout 0 Builder.start [] [] (awaits_value []) trivial
  rw [List.append_nil] at hfeed
  have hread : Term.ofString? (String.ofList (v.render layout 0)) =
      (feed Builder.start (v.render layout 0)).bind Builder.result? := by
    rw [Term.ofString?, tokens?, String.toList_ofList, feed]
    cases scanFrom .between (v.render layout 0) with
    | none => rfl
    | some ts => rfl
  rw [hread, hfeed]
  rfl

theorem eq_of_map_eq {α β : Type} {f : α → β} {xs ys : List α}
    (hf : ∀ x ∈ xs, ∀ y ∈ ys, f x = f y → x = y) (h : xs.map f = ys.map f) : xs = ys := by
  induction xs generalizing ys with
  | nil => exact (List.map_eq_nil_iff.mp h.symm).symm
  | cons x xs ih =>
    cases ys with
    | nil => cases h
    | cons y ys =>
      obtain ⟨hhead, htail⟩ := List.cons.inj h
      have hrest := ih (fun a ha b hb => hf a (List.mem_cons_of_mem x ha) b (List.mem_cons_of_mem y hb))
        htail
      rw [hf x List.mem_cons_self y List.mem_cons_self hhead, hrest]

/-- Different values have different terms. -/
theorem toTerm_injective {depth depth' : Nat} {v v' : Json} (plain : Plain depth v)
    (plain' : Plain depth' v') (h : v.toTerm = v'.toTerm) : v = v' := by
  induction plain generalizing depth' v' with
  | null => cases plain' <;> simp_all [toTerm]
  | bool b => cases plain' <;> simp_all [toTerm]
  | string s => cases plain' <;> simp_all [toTerm]
  | @array _ items _ ih =>
    cases plain' with
    | @array _ items' plain' =>
      rw [toTerm, toTerm, Term.array.injEq, itemTerms_eq_map, itemTerms_eq_map] at h
      rw [eq_of_map_eq (fun v hv v' hv' heq => ih v hv (plain' v' hv') heq) h]
    | _ => simp [toTerm] at h
  | @object _ members _ ih =>
    cases plain' with
    | @object _ members' plain' =>
      rw [toTerm, toTerm, Term.object.injEq, memberTerms_eq_map, memberTerms_eq_map] at h
      have hmember : ∀ m ∈ members, ∀ m' ∈ members',
          (some m.1, m.2.toTerm) = (some m'.1, m'.2.toTerm) → m = m' := by
        intro m hm m' hm' heq
        obtain ⟨hname, hvalue⟩ := Prod.mk.inj heq
        exact Prod.ext (Option.some.inj hname) (ih m hm (plain' m' hm') hvalue)
      rw [eq_of_map_eq hmember h]
    | _ => simp [toTerm] at h

end KeywordDocs.Json
