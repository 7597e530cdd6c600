import KeywordDocs.Proofs.Calls

/-!
# What a registry owes to its history

A resolver is asked to resolve references and to release names, in any order. What is registered at the
end can be read off the answers: a name stands for the module of the latest resolve of that name that
succeeded, as long as the name was not released since (`registered_by_history`).

`Since` is the one notion of time that is needed: something happened, and since then nothing of another
kind did.
-/

namespace KeywordDocs

/-! ### Since -/

/-- What stands in a list with something behind it stands there already before, or is the last thing. -/
theorem concat_eq_append_cons_iff {α : Type} {past before after : List α} {x y : α} :
    past ++ [x] = before ++ y :: after ↔
      past = before ∧ x = y ∧ after = [] ∨ ∃ rest, past = before ++ y :: rest ∧ after = rest ++ [x] := by
  constructor
  · intro h
    rcases List.eq_nil_or_concat after with rfl | ⟨rest, z, rfl⟩
    · obtain ⟨hpast, hlast⟩ := List.append_inj' h rfl
      exact .inl ⟨hpast, by simpa using hlast, rfl⟩
    · have hsplit : past ++ [x] = (before ++ y :: rest) ++ [z] := by simpa using h
      obtain ⟨hpast, hlast⟩ := List.append_inj' hsplit rfl
      obtain rfl : x = z := by simpa using hlast
      exact .inr ⟨rest, hpast, by simp⟩
  · rintro (⟨rfl, rfl, rfl⟩ | ⟨rest, rfl, rfl⟩)
    · rfl
    · simp

/-- Something in the list has `P`, and all that came after it has `Q`. -/
def Since {α : Type} (P Q : α → Prop) (past : List α) : Prop :=
  ∃ before x after, past = before ++ x :: after ∧ P x ∧ ∀ y ∈ after, Q y

namespace Since

variable {α : Type} {P Q : α → Prop} {past : List α} {x : α}

theorem not_nil : ¬ Since P Q [] := by
  rintro ⟨before, x, after, heq, _⟩
  simp at heq

/-- Since something happened `Q` holds: either it happened just now, or `Q` held just now too. -/
theorem concat_iff : Since P Q (past ++ [x]) ↔ P x ∨ Q x ∧ Since P Q past := by
  constructor
  · rintro ⟨before, y, after, heq, hy, hafter⟩
    rcases concat_eq_append_cons_iff.mp heq with ⟨_, rfl, _⟩ | ⟨rest, hpast, rfl⟩
    · exact .inl hy
    · refine .inr ⟨hafter x (by simp), before, y, rest, hpast, hy, ?_⟩
      intro u hu
      exact hafter u (by simp [hu])
  · rintro (hx | ⟨hx, before, y, after, rfl, hy, hafter⟩)
    · exact ⟨past, x, [], rfl, hx, by simp⟩
    · refine ⟨before, y, after ++ [x], by simp, hy, ?_⟩
      intro u hu
      rcases List.mem_append.mp hu with hu | hu
      · exact hafter u hu
      · rwa [List.mem_singleton.mp hu]

/-- If something happened since then there is a latest time that it did. -/
theorem exists_iff {β : Type} {P : β → α → Prop} :
    Since (fun x => ∃ b, P b x) Q past ↔ ∃ b, Since (P b) (fun x => Q x ∧ ∀ b, ¬ P b x) past := by
  induction past using List.reverseRecOn with
  | nil => simp [not_nil]
  | append_singleton past x ih =>
    simp only [concat_iff, ih]
    constructor
    · rintro (⟨b, hb⟩ | ⟨hx, b, hsince⟩)
      · exact ⟨b, .inl hb⟩
      · by_cases hnow : ∃ b, P b x
        · exact hnow.imp fun _ => .inl
        · exact ⟨b, .inr ⟨⟨hx, not_exists.mp hnow⟩, hsince⟩⟩
    · rintro ⟨b, hb | ⟨⟨hx, _⟩, hsince⟩⟩
      · exact .inl ⟨b, hb⟩
      · exact .inr ⟨hx, b, hsince⟩

end Since

/-! ### Histories -/

/-- A call on a resolver. -/
inductive Request where
  | resolve (r : Reference)
  | release (name : String)
  deriving DecidableEq, Repr

/-- A call on a resolver, with its answer. -/
inductive Exchange where
  | resolved (r : Reference) (reply : Except ResolveError ResolvedModule)
  | released (name : String) (reply : Bool)

namespace Exchange

/-- A reference of this name was resolved to the module. -/
def Binds (name : String) (m : ResolvedModule) : Exchange → Prop
  | .resolved r reply => r.logicalName = name ∧ reply = .ok m
  | .released .. => False

/-- The name was released. -/
def Releases (name : String) : Exchange → Prop
  | .resolved .. => False
  | .released other _ => other = name

/-- The name was neither released nor bound to a module. -/
def Spares (name : String) (x : Exchange) : Prop := ¬ x.Releases name ∧ ∀ m, ¬ x.Binds name m

end Exchange

/-- A resolver at work: its registry, the world, and the answers it gave so far, the first one first. -/
structure Resolver (σ : Type) where
  registry : Registry
  world : World σ
  past : List Exchange

variable {σ : Type}

namespace Resolver

/-- A resolver that was not asked yet. -/
def fresh (w : World σ) : Resolver σ := ⟨.empty, w, []⟩

/-- The resolver once it has answered a request. -/
def answer (loader : ModuleLoader σ) (s : Resolver σ) : Request → Resolver σ
  | .resolve r =>
    let o := loader.resolve s.registry r s.world
    ⟨o.value.2, o.world, s.past ++ [.resolved r o.value.1]⟩
  | .release name =>
    let (reply, registry) := s.registry.release name
    ⟨registry, s.world, s.past ++ [.released name reply]⟩

/-- The resolver once it has answered requests one after another. -/
def answerAll (loader : ModuleLoader σ) (s : Resolver σ) (requests : List Request) : Resolver σ :=
  requests.foldl (answer loader) s

theorem answerAll_concat (loader : ModuleLoader σ) (s : Resolver σ) (requests : List Request)
    (request : Request) : s.answerAll loader (requests ++ [request]) =
      (s.answerAll loader requests).answer loader request := by
  simp [answerAll]

end Resolver

/-! ### One request -/

namespace Registry

theorem name_of_get? {registry : Registry} {name : String} {m : ResolvedModule}
    (h : registry.get? name = some m) : m.name = name := by
  have hname := List.find?_some h
  exact of_decide_eq_true hname

theorem get?_release (registry : Registry) (name other : String) :
    (registry.release name).2.get? other = if other = name then none else registry.get? other :=
  registry.get?_erase name other

end Registry

namespace ModuleLoader

variable {loader : ModuleLoader σ} {registry : Registry} {r : Reference} {w : World σ}

theorem registered?_eq_some {m : ResolvedModule} (h : registered? registry r = some m) :
    registry.get? r.logicalName = some m := by
  unfold registered? at h
  cases hkind : r.kind with
  | physical => simp [hkind] at h
  | named => simpa [hkind] using h

/-- After a reference was resolved its name stands for the module it was resolved to. A reference that
was not resolved changes nothing, and no other name is touched. -/
theorem get?_resolve (loader : ModuleLoader σ) (registry : Registry) (r : Reference) (w : World σ)
    (name : String) :
    (loader.resolve registry r w).value.2.get? name =
      match (loader.resolve registry r w).value.1 with
      | .ok m => if name = r.logicalName then some m else registry.get? name
      | .error _ => registry.get? name := by
  cases hreg : registered? registry r with
  | some m =>
    rw [(loader.resolve_of_registered hreg).1]
    have hbound := registered?_eq_some hreg
    by_cases hname : name = r.logicalName
    · simp [hname, hbound]
    · simp [hname]
  | none =>
    cases hload : ((loader.load r).run w).value with
    | error e => rw [(loader.resolve_of_error hreg hload).1]
    | ok l =>
      rw [(loader.resolve_of_ok hreg hload).1]
      exact registry.get?_register _ name

theorem resolve_eq_error {e : ResolveError} (h : (loader.resolve registry r w).value.1 = .error e) :
    (loader.resolve registry r w).value.2 = registry := by
  cases hreg : registered? registry r with
  | some m => rw [(loader.resolve_of_registered hreg).1]
  | none =>
    cases hload : ((loader.load r).run w).value with
    | error e => rw [(loader.resolve_of_error hreg hload).1]
    | ok l =>
      rw [(loader.resolve_of_ok hreg hload).1] at h
      cases h

/-- A module that a reference is resolved to was loaded for the reference, or it is the one that was
registered under its name. -/
theorem resolve_eq_ok {m : ResolvedModule} (h : (loader.resolve registry r w).value.1 = .ok m) :
    m.name = r.logicalName ∧
      (m.reference = r ∨ r.kind = .named ∧ registry.get? r.logicalName = some m) := by
  cases hreg : registered? registry r with
  | some m' =>
    rw [(loader.resolve_of_registered hreg).1] at h
    cases h
    have hbound := registered?_eq_some hreg
    have hkind : r.kind = .named := by
      cases hkind : r.kind with
      | physical => simp [registered?, hkind] at hreg
      | named => rfl
    exact ⟨Registry.name_of_get? hbound, .inr ⟨hkind, hbound⟩⟩
  | none =>
    cases hload : ((loader.load r).run w).value with
    | error e =>
      rw [(loader.resolve_of_error hreg hload).1] at h
      cases h
    | ok l =>
      rw [(loader.resolve_of_ok hreg hload).1] at h
      cases h
      exact ⟨rfl, .inl rfl⟩

/-- The calls that resolving a reference makes. -/
def callsOf (loader : ModuleLoader σ) (registry : Registry) (r : Reference) (w : World σ) :
    List Call :=
  (loader.watched.resolve registry r w.watched).world.host.calls

/-- A name that is registered is not asked for. -/
theorem resolve_of_bound {m : ResolvedModule} (hkind : r.kind = .named)
    (h : registry.get? r.logicalName = some m) :
    (loader.resolve registry r w).value.1 = .ok m ∧ loader.callsOf registry r w = [] := by
  have hreg : registered? registry r = some m := by simp [registered?, hkind, h]
  constructor
  · rw [(loader.resolve_of_registered hreg).1]
  · rw [callsOf, (loader.watched.resolve_of_registered hreg).2]
    rfl

/-- A file is loaded afresh, with one call. -/
theorem callsOf_of_physical (hkind : r.kind = .physical) :
    loader.callsOf registry r w = [.loadFile r.logicalName r.path] := by
  have hreg : registered? registry r = none := by simp [registered?, hkind]
  have hcalls : ((loader.watched.load r).run w.watched).world.host.calls =
      [.loadFile r.logicalName r.path] := by
    rw [load, hkind]
    rfl
  rw [callsOf, ← hcalls]
  cases hload : ((loader.watched.load r).run w.watched).value with
  | error e => rw [(loader.watched.resolve_of_error hreg hload).2]
  | ok l => rw [(loader.watched.resolve_of_ok hreg hload).2]

end ModuleLoader

/-! ### All requests -/

namespace Resolver

variable (loader : ModuleLoader σ) (w : World σ) (requests : List Request)

/-- A name stands for a module exactly when a reference of that name was resolved to it, and the name was
neither released nor bound anew since. -/
theorem get?_eq_some_iff (name : String) (m : ResolvedModule) :
    let s := (fresh w).answerAll loader requests
    s.registry.get? name = some m ↔ Since (Exchange.Binds name m) (Exchange.Spares name) s.past := by
  induction requests using List.reverseRecOn with
  | nil => simp [answerAll, fresh, Since.not_nil]
  | append_singleton requests request ih =>
    simp only [answerAll_concat]
    generalize (fresh w).answerAll loader requests = s at ih ⊢
    cases request with
    | resolve r =>
      simp only [answer, Since.concat_iff, ← ih, loader.get?_resolve, Exchange.Binds,
        Exchange.Spares, Exchange.Releases]
      cases (loader.resolve s.registry r s.world).value.1 with
      | error e => simp
      | ok m' =>
        by_cases hname : name = r.logicalName
        · simp [hname]
        · simp [hname, Ne.symm hname]
    | release other =>
      simp only [answer, Registry.release, Since.concat_iff, ← ih, s.registry.get?_erase,
        Exchange.Binds, Exchange.Spares, Exchange.Releases]
      by_cases hname : name = other
      · simp [hname]
      · simp [hname, Ne.symm hname]

/-- A name is registered exactly when a reference of that name was resolved and the name was not released
since. -/
theorem contains_iff (name : String) :
    let s := (fresh w).answerAll loader requests
    s.registry.contains name = true ↔
      Since (fun x => ∃ m, x.Binds name m) (fun x => ¬ x.Releases name) s.past := by
  intro s
  rw [Registry.contains_eq_isSome_get?, Option.isSome_iff_exists, Since.exists_iff]
  exact exists_congr fun m => get?_eq_some_iff loader w requests name m

/-- The module that a name stands for has that name, and so has the reference it was loaded for. -/
theorem names_of_get? {name : String} {m : ResolvedModule}
    (h : ((fresh w).answerAll loader requests).registry.get? name = some m) :
    m.name = name ∧ m.reference.logicalName = name := by
  refine ⟨Registry.name_of_get? h, ?_⟩
  induction requests using List.reverseRecOn generalizing name m with
  | nil => simp [answerAll, fresh] at h
  | append_singleton requests request ih =>
    rw [answerAll_concat] at h
    generalize (fresh w).answerAll loader requests = s at ih h
    cases request with
    | release other =>
      simp only [answer, s.registry.get?_release] at h
      split at h
      · cases h
      · exact ih h
    | resolve r =>
      simp only [answer, loader.get?_resolve] at h
      split at h
      · rename_i m' hresolve
        split at h
        · rename_i hname
          cases h
          subst hname
          -- A module that is reused has its names from the resolve that registered it.
          rcases (ModuleLoader.resolve_eq_ok hresolve).2 with hfor | ⟨_, hbound⟩
          · rw [hfor]
          · exact ih hbound
        · exact ih h
      · exact ih h

end Resolver

/-- **The registry is what its history makes it.** Let a new resolver have answered any requests, with
whatever replies of its loader.

* A name is registered exactly when a reference of that name was resolved since the name was last
  released; it stands for the module of the latest such resolve, which has that name, as has the
  reference it was loaded for.
* The next resolve touches no name but that of its reference, and nothing when it fails. A module name
  that is registered is resolved to its module without a call of the loader; a file is loaded with
  exactly one call, and takes the place of what had its name.
* The next release tells whether the name was registered, and touches no other name. -/
theorem registered_by_history (loader : ModuleLoader σ) (w : World σ) (requests : List Request) :
    let s := (Resolver.fresh w).answerAll loader requests
    (∀ name,
      (s.registry.contains name = true ↔
        Since (fun x => ∃ m, x.Binds name m) (fun x => ¬ x.Releases name) s.past) ∧
      ∀ m,
        (s.registry.get? name = some m ↔
          Since (Exchange.Binds name m) (Exchange.Spares name) s.past) ∧
        (s.registry.get? name = some m → m.name = name ∧ m.reference.logicalName = name)) ∧
    (∀ r,
      let next := loader.resolve s.registry r s.world
      (∀ e, next.value.1 = .error e → next.value.2 = s.registry) ∧
      (∀ other, other ≠ r.logicalName → next.value.2.get? other = s.registry.get? other) ∧
      (r.kind = .named → ∀ m, s.registry.get? r.logicalName = some m →
        next.value.1 = .ok m ∧ loader.callsOf s.registry r s.world = []) ∧
      (r.kind = .physical →
        loader.callsOf s.registry r s.world = [.loadFile r.logicalName r.path] ∧
        ∀ m, next.value.1 = .ok m →
          m.reference = r ∧ next.value.2.get? r.logicalName = some m)) ∧
    ∀ name,
      ((s.registry.release name).1 = true ↔ ∃ m, s.registry.get? name = some m) ∧
      (s.registry.release name).2.get? name = none ∧
      ∀ other, other ≠ name → (s.registry.release name).2.get? other = s.registry.get? other := by
  intro s
  refine ⟨fun name => ⟨Resolver.contains_iff loader w requests name, fun m =>
    ⟨Resolver.get?_eq_some_iff loader w requests name m, Resolver.names_of_get? loader w requests⟩⟩,
    fun r => ?_, fun name => ⟨?_, ?_, ?_⟩⟩
  · intro next
    refine ⟨fun e => ModuleLoader.resolve_eq_error, ?_,
      fun hkind m => ModuleLoader.resolve_of_bound hkind,
      fun hkind => ⟨ModuleLoader.callsOf_of_physical hkind, ?_⟩⟩
    · intro other hother
      rw [loader.get?_resolve]
      split
      · rw [if_neg hother]
      · rfl
    · intro m hm
      rw [loader.get?_resolve, hm]
      rcases (ModuleLoader.resolve_eq_ok hm).2 with hfor | ⟨hnamed, _⟩
      · exact ⟨hfor, by simp⟩
      · rw [hkind] at hnamed
        cases hnamed
  · rw [← Option.isSome_iff_exists, ← Registry.contains_eq_isSome_get?]
    rfl
  · simp [Registry.get?_release]
  · intro other hother
    rw [Registry.get?_release, if_neg hother]

end KeywordDocs
