import Mathlib.Data.List.Perm.Basic
import KeywordDocs.Proofs.Lines
import KeywordDocs.Proofs.Terms

/-!
# Reading values back

A value that was written is read back with the members of its objects in the order of their names
(`ofString?_render`). Where the names of an object are distinct that is a permutation of its members
(`perm_sortedMembers`), and each name has the value it had (`get?_sorted`).

On one line no control character is written (`clear_compact`), so that an object is the last line
of its own text, and can be read from there (`readLastLine?_compact`).
-/

namespace KeywordDocs.Json

/-! ### Members in the order of their names -/

mutual

/-- The value with the members of all objects in the order of their names. -/
def sorted : Json → Json
  | .null => .null
  | .bool b => .bool b
  | .number n => .number n
  | .string s => .string s
  | .array items => .array (sortedItems items)
  | .object members => .object (sortedMembers [] members)

/-- The items of an array, each in order. -/
def sortedItems : List Json → List Json
  | [] => []
  | item :: items => sorted item :: sortedItems items

/-- The members of an object, each put at its place among those before. -/
def sortedMembers (done : List (String × Json)) : List (String × Json) → List (String × Json)
  | [] => done
  | member :: members => sortedMembers (sortedMember done member) members

/-- Puts a member at its place. -/
def sortedMember (done : List (String × Json)) : String × Json → List (String × Json)
  | (name, value) => insertMember name (sorted value) done

end

theorem sortedItems_eq_map (items : List Json) : sortedItems items = items.map sorted := by
  induction items with
  | nil => rfl
  | cons item items ih => rw [sortedItems, ih, List.map_cons]

theorem ofItems?_itemTerms {depth : Nat} {items : List Json}
    (h : ∀ v ∈ items, ofTerm? depth v.toTerm = some v.sorted) :
    ofItems? depth (itemTerms items) = some (sortedItems items) := by
  induction items with
  | nil => rfl
  | cons item items ih =>
    rw [itemTerms, ofItems?, h item List.mem_cons_self,
      ih fun v hv => h v (List.mem_cons_of_mem item hv)]
    rfl

theorem ofMembers?_memberTerms {depth : Nat} {members : List (String × Json)}
    (h : ∀ m ∈ members, ofTerm? depth m.2.toTerm = some m.2.sorted) (done : List (String × Json)) :
    ofMembers? depth done (memberTerms members) = some (sortedMembers done members) := by
  induction members generalizing done with
  | nil => rfl
  | cons member members ih =>
    obtain ⟨name, value⟩ := member
    have hvalue : ofTerm? depth value.toTerm = some value.sorted := h (name, value) List.mem_cons_self
    rw [memberTerms, memberTerm, ofMembers?, ofMember?, hvalue, sortedMembers, sortedMember,
      ← ih fun m hm => h m (List.mem_cons_of_mem (name, value) hm)]
    rfl

/-- The term of a value is read as the value in order. -/
theorem ofTerm?_toTerm {depth : Nat} {v : Json} (plain : Plain depth v) :
    ofTerm? depth v.toTerm = some v.sorted := by
  induction plain with
  | null => rfl
  | bool b => rfl
  | string s => rfl
  | @array depth items _ ih =>
    rw [toTerm, ofTerm?, if_neg (Nat.succ_ne_zero depth), Nat.add_sub_cancel, ofItems?_itemTerms ih]
    rfl
  | @object depth members _ ih =>
    rw [toTerm, ofTerm?, if_neg (Nat.succ_ne_zero depth), Nat.add_sub_cancel,
      ofMembers?_memberTerms ih]
    rfl

/-- **A value is read back from its text with its members in order**, in both layouts. -/
theorem ofString?_render {v : Json} (plain : Plain maxNesting v) (layout : Layout) :
    ofString? (String.ofList (v.render layout 0)) = some v.sorted := by
  rw [ofString?, termOfString?_render plain layout]
  exact ofTerm?_toTerm plain

/-! ### Distinct names -/

theorem perm_insertMember {name : String} {ms : List (String × Json)} (h : name ∉ ms.map Prod.fst)
    (value : Json) : (insertMember name value ms).Perm ((name, value) :: ms) := by
  induction ms with
  | nil => exact .refl _
  | cons m ms ih =>
    obtain ⟨n, v⟩ := m
    rw [List.map_cons, List.mem_cons, not_or] at h
    rw [insertMember, if_neg h.1]
    split
    · exact .refl _
    · exact ((ih h.2).cons (n, v)).trans (.swap _ _ _)

theorem perm_sortedMembers {members done : List (String × Json)}
    (h : ((members ++ done).map Prod.fst).Nodup) :
    (sortedMembers done members).Perm (members.map (fun m => (m.1, m.2.sorted)) ++ done) := by
  induction members generalizing done with
  | nil => exact .refl _
  | cons member members ih =>
    obtain ⟨name, value⟩ := member
    rw [List.cons_append, List.map_cons, List.nodup_cons] at h
    have hnew : name ∉ done.map Prod.fst := fun hmem =>
      h.1 (by rw [List.map_append]; exact List.mem_append_right _ hmem)
    have hinsert := perm_insertMember hnew value.sorted
    have hnames : ((members ++ insertMember name value.sorted done).map Prod.fst).Nodup := by
      have hperm : ((members ++ insertMember name value.sorted done).map Prod.fst).Perm
          (name :: (members ++ done).map Prod.fst) :=
        ((hinsert.append_left members).trans List.perm_middle).map Prod.fst
      exact hperm.nodup_iff.mpr (List.nodup_cons.mpr h)
    rw [sortedMembers, sortedMember, List.map_cons, List.cons_append]
    exact ((ih hnames).trans (hinsert.append_left _)).trans List.perm_middle

theorem lookup_eq_of_perm {ms ms' : List (String × Json)} (perm : ms.Perm ms')
    (nodup : (ms.map Prod.fst).Nodup) (name : String) : ms.lookup name = ms'.lookup name := by
  induction perm with
  | nil => rfl
  | cons m _ ih =>
    rw [List.map_cons, List.nodup_cons] at nodup
    rw [List.lookup_cons, List.lookup_cons, ih nodup.2]
  | swap m n ms =>
    obtain ⟨first, value⟩ := m
    obtain ⟨second, value'⟩ := n
    have hne : second ≠ first := fun heq => by simp [heq] at nodup
    rw [List.lookup_cons, List.lookup_cons, List.lookup_cons, List.lookup_cons]
    by_cases hname : name = second
    · have hother : (name == first) = false := beq_eq_false_iff_ne.mpr (hname ▸ hne)
      rw [hother]
    · rw [beq_eq_false_iff_ne.mpr hname]
  | trans first _ ih ih' =>
    rw [ih nodup, ih' ((first.map Prod.fst).nodup_iff.mp nodup)]

theorem lookup_eq_some_of_mem {ms : List (String × Json)} (nodup : (ms.map Prod.fst).Nodup)
    {name : String} {value : Json} (h : (name, value) ∈ ms) : ms.lookup name = some value := by
  obtain ⟨before, after, rfl⟩ := List.append_of_mem h
  have perm : (before ++ (name, value) :: after).Perm ((name, value) :: (before ++ after)) :=
    List.perm_middle
  rw [lookup_eq_of_perm perm nodup, List.lookup_cons_self]

theorem perm_members_sorted {members : List (String × Json)} (h : (members.map Prod.fst).Nodup) :
    (sortedMembers [] members).Perm (members.map fun m => (m.1, m.2.sorted)) := by
  rw [← List.append_nil members] at h
  simpa using perm_sortedMembers h

/-- In order each name has the value it had, if that was in order before. -/
theorem get?_sorted {members : List (String × Json)} (h : (members.map Prod.fst).Nodup)
    (steady : ∀ m ∈ members, m.2.sorted = m.2) (name : String) :
    (Json.object members).sorted.get? name = (Json.object members).get? name := by
  have hsame : (members.map fun m => (m.1, m.2.sorted)) = members := by
    rw [List.map_congr_left fun m hm => by rw [steady m hm]]
    exact List.map_id members
  have hperm := perm_members_sorted h
  rw [hsame] at hperm
  rw [sorted]
  exact (lookup_eq_of_perm hperm.symm h name).symm

/-! ### One line -/

/-- There are no control characters in the text. -/
def Clear (cs : List Char) : Prop := ∀ c ∈ cs, 32 ≤ c.toNat

theorem clear_cons {c : Char} {cs : List Char} : Clear (c :: cs) ↔ 32 ≤ c.toNat ∧ Clear cs :=
  List.forall_mem_cons

theorem clear_append {cs ds : List Char} : Clear (cs ++ ds) ↔ Clear cs ∧ Clear ds :=
  List.forall_mem_append

theorem clear_of_all {cs : List Char} (h : cs.all (32 ≤ ·.toNat) = true) : Clear cs := fun c hc =>
  of_decide_eq_true (List.all_eq_true.mp h c hc)

theorem clear_escapeChar (c : Char) : Clear (escapeChar c) := by
  have hdigit : ∀ d < 16, 32 ≤ (Nat.digitChar d).toNat := by decide
  unfold escapeChar
  split
  · exact clear_of_all rfl
  split
  · exact clear_of_all rfl
  split
  · exact clear_of_all rfl
  split
  · exact clear_of_all rfl
  split
  · exact clear_of_all rfl
  split
  · exact clear_of_all rfl
  split
  · exact clear_of_all rfl
  split
  · rename_i hcontrol
    simp only [controlEscape, clear_cons]
    have hhigh := hdigit (c.toNat / 16) (by omega)
    have hlow := hdigit (c.toNat % 16) (by omega)
    refine ⟨by decide, by decide, by decide, by decide, hhigh, hlow, ?_⟩
    exact List.forall_mem_nil _
  · rename_i hcontrol
    exact clear_cons.mpr ⟨by omega, List.forall_mem_nil _⟩

theorem clear_quote (s : String) : Clear (quote s) := by
  have hquote : 32 ≤ ('"' : Char).toNat := by decide
  rw [quote, clear_cons, clear_append]
  refine ⟨hquote, ?_, clear_cons.mpr ⟨hquote, List.forall_mem_nil _⟩⟩
  intro d hd
  obtain ⟨c, _, hc⟩ := List.mem_flatMap.mp hd
  exact clear_escapeChar c d hc

theorem clear_items {level : Nat} {items : List Json}
    (h : ∀ v ∈ items, Clear (v.render .compact level)) : Clear (renderItems .compact level items) := by
  induction items with
  | nil => exact List.forall_mem_nil _
  | cons item items ih =>
    rw [renderItems, clear_cons, clear_append, clear_append]
    have hitem := h item List.mem_cons_self
    have hrest := ih fun v hv => h v (List.mem_cons_of_mem item hv)
    exact ⟨by decide, ⟨List.forall_mem_nil _, hitem⟩, hrest⟩

theorem clear_member {level : Nat} {m : String × Json} (h : Clear (m.2.render .compact level)) :
    Clear (renderMember .compact level m) := by
  obtain ⟨name, value⟩ := m
  rw [renderMember, clear_append, clear_append]
  exact ⟨⟨clear_quote name, clear_cons.mpr ⟨by decide, List.forall_mem_nil _⟩⟩, h⟩

theorem clear_members {level : Nat} {members : List (String × Json)}
    (h : ∀ m ∈ members, Clear (m.2.render .compact level)) :
    Clear (renderMembers .compact level members) := by
  induction members with
  | nil => exact List.forall_mem_nil _
  | cons member members ih =>
    rw [renderMembers, clear_cons, clear_append, clear_append]
    have hmember := clear_member (h member List.mem_cons_self)
    have hrest := ih fun m hm => h m (List.mem_cons_of_mem member hm)
    exact ⟨by decide, ⟨List.forall_mem_nil _, hmember⟩, hrest⟩

/-- On one line no control character is written. -/
theorem clear_compact {depth : Nat} {v : Json} (plain : Plain depth v) (level : Nat) :
    Clear (v.render .compact level) := by
  induction plain generalizing level with
  | null => exact clear_of_all rfl
  | bool value =>
    cases value with
    | true => exact clear_of_all rfl
    | false => exact clear_of_all rfl
  | string s =>
    rw [render]
    exact clear_quote s
  | @array _ items _ ih =>
    cases items with
    | nil => exact clear_of_all rfl
    | cons item items =>
      have hitem := ih item List.mem_cons_self (level + 1)
      have hrest := clear_items fun v hv => ih v (List.mem_cons_of_mem item hv) (level + 1)
      simp only [render, clear_append, clear_cons]
      exact ⟨⟨⟨by decide, ⟨List.forall_mem_nil _, hitem⟩, hrest⟩, List.forall_mem_nil _⟩, by decide,
        List.forall_mem_nil _⟩
  | @object _ members _ ih =>
    cases members with
    | nil => exact clear_of_all rfl
    | cons member members =>
      have hmember := clear_member (ih member List.mem_cons_self (level + 1))
      have hrest := clear_members fun m hm => ih m (List.mem_cons_of_mem member hm) (level + 1)
      simp only [render, clear_append, clear_cons]
      exact ⟨⟨⟨by decide, ⟨List.forall_mem_nil _, hmember⟩, hrest⟩, List.forall_mem_nil _⟩, by decide,
        List.forall_mem_nil _⟩

theorem exists_render_object (layout : Layout) (level : Nat) (members : List (String × Json)) :
    ∃ inside, (Json.object members).render layout level = '\x7b' :: (inside ++ ['\x7d']) := by
  cases members with
  | nil => exact ⟨[], rfl⟩
  | cons member members =>
    refine ⟨layout.lineBreak (level + 1) ++ renderMember layout (level + 1) member ++
      renderMembers layout (level + 1) members ++ layout.lineBreak level, ?_⟩
    rw [render]
    rfl

end KeywordDocs.Json

namespace KeywordDocs.Text

theorem trimChars_of_ends {a z : Char} (ha : isBlank a = false) (hz : isBlank z = false)
    (cs : List Char) : trimChars (a :: (cs ++ [z])) = a :: (cs ++ [z]) := by
  have htrimmed : trimChars ([] ++ a :: (cs ++ [z]) ++ []) = a :: (cs ++ [z]) := by
    refine trimChars_append (by simp) (by simp) (List.cons_ne_nil _ _) (fun c hc => ?_) fun c hc => ?_
    · rwa [← Option.some.inj hc]
    · rw [← List.cons_append, List.getLast?_concat] at hc
      rwa [← Option.some.inj hc]
  rwa [List.nil_append, List.append_nil] at htrimmed

/-- A text on one line with no blanks around it is its own last line. -/
theorem lastLine?_of_line {cs : List Char} (hline : '\n' ∉ cs) (htrim : trimChars cs = cs)
    (hne : cs ≠ []) : lastLine? (String.ofList cs) = some (String.ofList cs) := by
  rw [lastLine?, String.toList_ofList, split_of_notMem hline]
  simp [htrim, hne]

end KeywordDocs.Text

namespace KeywordDocs.Json

/-- An object on one line is the last line of its text. -/
theorem lastLine?_compact {depth : Nat} {members : List (String × Json)}
    (plain : Plain depth (.object members)) :
    Text.lastLine? (Json.object members).compact = some (Json.object members).compact := by
  obtain ⟨inside, hinside⟩ := exists_render_object .compact 0 members
  have hline : '\n' ∉ (Json.object members).render .compact 0 := fun hmem =>
    absurd (clear_compact plain 0 _ hmem) (by decide)
  rw [hinside] at hline
  rw [compact, hinside]
  exact Text.lastLine?_of_line hline (Text.trimChars_of_ends (by decide) (by decide) inside)
    (List.cons_ne_nil _ _)

/-- The last line of the text of an object is read as the object in order. -/
theorem readLastLine?_compact {members : List (String × Json)}
    (plain : Plain maxNesting (.object members)) :
    readLastLine? (ofTerm? maxNesting) (Json.object members).compact =
      some (Json.object members).sorted := by
  rw [readLastLine?, lastLine?_compact plain]
  exact ofString?_render plain .compact

end KeywordDocs.Json
