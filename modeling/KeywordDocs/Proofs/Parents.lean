import KeywordDocs.Proofs.Components

/-!
# File names and parents

The file name and the parent of a path are found by dropping parts from its end. In terms of components
the parent is the path without its last component, and the file name is that component, if it is a name
(`components_of_reversedParts`). It comes down to two facts: a part that does not count has no component
(`route_dropIdle`), and one that counts has exactly one (`route_concat`).
-/

namespace KeywordDocs

namespace PathText

variable {α : Type} [DecidableEq α] [PathAlphabet α]

open PathAlphabet

/-! ### Parts and components -/

/-- The components that the parts of a path stand for, the root aside. -/
def route (parts : List (List α)) : List (Component α) :=
  (if parts.head? = some [dot] then [.current] else []) ++ parts.filterMap component?

/-- The component that a part stands for where it counts. -/
def counted (part : List α) : Component α :=
  if part = [dot] then .current else if part = [dot, dot] then .parent else .normal part

/-- The components of a path are the root, if it is absolute, and those of its parts. -/
theorem components_eq_route (p : List α) :
    components p = (if isAbsolute p then [.root] else []) ++ route (Text.split slash p) := by
  rw [components, origin, route]
  cases habsolute : isAbsolute p with
  | false => simp
  | true =>
    -- The first part of an absolute path is empty, so it is no dot.
    obtain ⟨cs, rfl⟩ : ∃ cs, p = slash :: cs := by
      rw [isAbsolute, decide_eq_true_eq] at habsolute
      exact List.head?_eq_some_iff.mp habsolute
    have hfirst : (Text.split slash (slash :: cs)).head? ≠ some [dot] := by
      simp [Text.split]
    simp [hfirst]

theorem route_concat {front : List (List α)} {part : List α}
    (h : counts front.isEmpty part = true) : route (front ++ [part]) = route front ++ [counted part] := by
  rw [counts, Bool.and_eq_true, decide_eq_true_eq] at h
  obtain ⟨hne, hfront⟩ := h
  by_cases hdot : part = [dot]
  · have hnil : front = [] := by simpa [hdot] using hfront
    simp [route, counted, component?, hnil, hdot]
  · have hpart : component? part = some (counted part) := by
      simp only [component?, counted, hne, hdot, or_self, if_false]
      split <;> rfl
    by_cases hnil : front = []
    · simp [route, hnil, hdot, hpart]
    · rw [route, route, List.head?_append_of_ne_nil _ hnil, List.filterMap_append]
      simp [hpart]

/-- A part that does not count stands for no component. -/
theorem route_concat_idle {front : List (List α)} {part : List α}
    (h : counts front.isEmpty part = false) : route (front ++ [part]) = route front := by
  rw [counts, Bool.and_eq_false_iff, decide_eq_false_iff_not, not_not, Bool.or_eq_false_iff,
    decide_eq_false_iff_not, not_not] at h
  have hpart : component? part = none :=
    component?_eq_none_iff.mpr (h.imp_right And.right)
  by_cases hnil : front = []
  · obtain rfl : part = [] := by simpa [hnil] using h
    simp [route, hnil, component?]
  · rw [route, route, List.head?_append_of_ne_nil _ hnil, List.filterMap_append]
    simp [hpart]

theorem route_dropIdle (parts : List (List α)) :
    route (dropIdle parts).reverse = route parts.reverse := by
  induction parts with
  | nil => rfl
  | cons part rest ih =>
    rw [dropIdle, List.reverse_cons]
    cases hcounts : counts rest.isEmpty part with
    | true => rw [if_pos rfl, List.reverse_cons]
    | false =>
      rw [if_neg Bool.false_ne_true, ih, route_concat_idle]
      rwa [List.isEmpty_reverse]

/-! ### The last component -/

theorem counts_of_dropIdle {parts rest : List (List α)} {part : List α}
    (h : dropIdle parts = part :: rest) : counts rest.isEmpty part = true := by
  induction parts with
  | nil => cases h
  | cons first parts ih =>
    rw [dropIdle] at h
    split at h
    · rename_i hcounts
      cases h
      exact hcounts
    · exact ih h

/-- What is left of the parts of a path is the parent's, where that is not the root or empty. -/
theorem split_join_dropIdle {p : List α} {part last : List α} {rest front : List (List α)}
    (h : reversedParts p = part :: rest) (hdrop : dropIdle rest = last :: front) :
    Text.split slash (Text.join slash (last :: front).reverse) = (last :: front).reverse := by
  refine Text.split_join (by simp) fun piece hpiece => ?_
  have hparts := (dropIdle_eq_cons h).2
  have hrest := (dropIdle_eq_cons hdrop).2
  have hmem : piece ∈ (Text.split slash p).reverse :=
    hparts.subset (List.mem_cons_of_mem _ (hrest.subset (List.mem_reverse.mp hpiece)))
  exact Text.notMem_of_mem_split (List.mem_reverse.mp hmem)

/-- A path with a part that counts has a parent, which lacks the last component only. -/
theorem components_of_reversedParts {p : List α} {part : List α} {rest : List (List α)}
    (h : reversedParts p = part :: rest) :
    ∃ q, parent? p = some q ∧ components p = components q ++ [counted part] := by
  have hroute : route (Text.split slash p) = route rest.reverse ++ [counted part] := by
    have hkept := route_dropIdle (Text.split slash p).reverse
    rw [← reversedParts, h, List.reverse_reverse, List.reverse_cons, route_concat] at hkept
    · exact hkept.symm
    · rw [List.isEmpty_reverse]
      exact counts_of_dropIdle h
  have hrest := route_dropIdle rest
  rw [components_eq_route p, hroute, ← List.append_assoc]
  cases hdrop : dropIdle rest with
  | nil =>
    refine ⟨if isAbsolute p then [slash] else [], by simp [parent?, h, hdrop], ?_⟩
    rw [← hrest, hdrop]
    cases isAbsolute p with
    | true => simp [route, components, origin, isAbsolute, Text.split, component?]
    | false => simp [route, components, origin, isAbsolute, Text.split, component?]
  | cons last front =>
    rw [hdrop] at hrest
    have hsplit := split_join_dropIdle h hdrop
    have hparent : parent? p = some (Text.join slash (last :: front).reverse) := by
      simp [parent?, h, hdrop]
    set q := Text.join slash (last :: front).reverse
    refine ⟨q, hparent, ?_⟩
    -- The last part of the parent counts, so the parent is a front of the path and starts as it does.
    have hlast : (Text.split slash q).getLast? = some last := by
      rw [hsplit, List.reverse_cons, List.getLast?_concat]
    have hcounts := (dropIdle_eq_cons hdrop).1
    have hne : q ≠ [] := by
      intro hnil
      rw [hnil] at hlast
      exact hcounts (Option.some.inj hlast).symm
    have hroot : q ≠ [slash] := by
      intro hslash
      rw [hslash] at hlast
      have hnil : (Text.split slash [slash]).getLast? = some ([] : List α) := by simp [Text.split]
      exact hcounts (Option.some.inj (hlast.symm.trans hnil))
    obtain ⟨back, hback⟩ := prefix_of_parent? hparent hne hroot
    have habsolute : isAbsolute p = isAbsolute q := by
      rw [← hback, isAbsolute_append hne]
    rw [components_eq_route q, hsplit, hrest, habsolute]

/-- A path without a part that counts is the root or empty. -/
theorem components_of_reversedParts_nil {p : List α} (h : reversedParts p = []) :
    components p = if isAbsolute p then [.root] else [] := by
  have hroute := route_dropIdle (Text.split slash p).reverse
  rw [← reversedParts, h, List.reverse_reverse] at hroute
  rw [components_eq_route, ← hroute]
  simp [route]

theorem eq_of_counted_eq_normal {part name : List α} (h : counted part = .normal name) :
    part = name ∧ part ≠ [dot] ∧ part ≠ [dot, dot] := by
  rw [counted] at h
  split at h
  · cases h
  · rename_i hdot
    split at h
    · cases h
    · rename_i hup
      cases h
      exact ⟨rfl, hdot, hup⟩

/-- **A path that ends in a name** has that name for its file name, and a parent with the components
before it. -/
theorem name_and_parent {p name : List α} {cs : List (Component α)}
    (h : components p = cs ++ [.normal name]) :
    fileName? p = some name ∧ ∃ q, parent? p = some q ∧ components q = cs := by
  cases hparts : reversedParts p with
  | nil =>
    rw [components_of_reversedParts_nil hparts] at h
    have hlast := congrArg List.getLast? h
    rw [List.getLast?_concat] at hlast
    split at hlast <;> cases hlast
  | cons part rest =>
    obtain ⟨q, hparent, hcomponents⟩ := components_of_reversedParts hparts
    rw [h] at hcomponents
    obtain ⟨hfront, hlast⟩ := List.append_inj' hcomponents rfl
    obtain ⟨rfl, hdot, hup⟩ := eq_of_counted_eq_normal (List.cons.inj hlast).1.symm
    refine ⟨?_, q, hparent, hfront.symm⟩
    rw [fileName?, hparts]
    simp [hdot, hup]

end PathText

/-! ### The places of libdocs -/

/-- The libdoc of a key without a separator is the entry of the cache directory that is named by the key. -/
theorem components_artifactPath_of_notMem {key : String} (h : '/' ∉ key.toList) (cacheDir : Path) :
    (artifactPath cacheDir key).components =
      cacheDir.components ++ [.normal (Utf8.encode (key ++ ".xml"))] := by
  have hfolder : PathText.folder (Utf8.encode key) = [] :=
    PathText.folder_eq_nil_iff.mpr (slash_notMem_encode h)
  have hleaf : PathText.leaf (Utf8.encode key) = Utf8.encode key := by
    have happend := PathText.folder_append_leaf (Utf8.encode key)
    rwa [hfolder, List.nil_append] at happend
  have hdir := artifactPath_liesIn_iff.mp (liesIn_of_notMem h cacheDir)
  have hname : (Path.ofString key).leaf ++ Utf8.encode ".xml" = Utf8.encode (key ++ ".xml") := by
    rw [Utf8.encode_append]
    exact congrArg (· ++ Utf8.encode ".xml") hleaf
  rw [components_artifactPath, hdir, hname]

end KeywordDocs
