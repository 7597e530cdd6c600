import KeywordDocs.Proofs.Histories
import KeywordDocs.Proofs.Paths
import KeywordDocs.Proofs.Tables

/-!
# Names of classes inside modules

A dotted name is imported as it is. Where that fails it may name a class, so that the part before its
last dot is imported and asked for the part behind it. `ModuleLoader.Lookup` tells which calls are made
for that and which of the errors counts; a name without a dot, or with its only dot in front, has no
part to fall back on. `resolve_by_lookup` says that a reference which is not registered is resolved by
these calls and no others.
-/

namespace KeywordDocs

variable {σ α : Type}

/-! ### The last dot of a name -/

section Dots

variable {dotted parent last : String}

theorem splitLastDot?_append (h : '.' ∉ last.toList) :
    splitLastDot? (parent ++ "." ++ last) = some (parent, last) := by
  have hchars : (parent ++ "." ++ last).toList = parent.toList ++ '.' :: last.toList := by simp
  have hsplit : (Text.split '.' (parent ++ "." ++ last).toList).reverse =
      last.toList :: (Text.split '.' parent.toList).reverse := by
    rw [hchars, Text.split_append_last h, List.reverse_append]
    rfl
  rw [splitLastDot?, hsplit]
  cases hparent : (Text.split '.' parent.toList).reverse with
  | nil => exact absurd (List.reverse_eq_nil_iff.mp hparent) (Text.split_ne_nil '.' parent.toList)
  | cons piece rest =>
    simp only
    rw [← hparent, List.reverse_reverse, Text.join_split, String.ofList_toList, String.ofList_toList]

/-- A name is cut at its last dot. -/
theorem eq_of_splitLastDot? (h : splitLastDot? dotted = some (parent, last)) :
    dotted = parent ++ "." ++ last ∧ '.' ∉ last.toList := by
  unfold splitLastDot? at h
  split at h
  · cases h
  · cases h
  · rename_i piece rest hrest hpieces
    cases h
    have hsplit : Text.split '.' dotted.toList = rest.reverse ++ [piece] := by
      rw [← List.reverse_inj, hpieces, List.reverse_append, List.reverse_reverse]
      rfl
    have hne : rest.reverse ≠ [] := fun hnil => hrest (List.reverse_eq_nil_iff.mp hnil)
    have hmem : piece ∈ Text.split '.' dotted.toList := by
      rw [hsplit]
      exact List.mem_append_right _ (List.mem_singleton_self piece)
    have hjoin := Text.join_split '.' dotted.toList
    rw [hsplit, Text.join_append hne (List.cons_ne_nil _ _)] at hjoin
    refine ⟨?_, by rw [String.toList_ofList]; exact Text.notMem_of_mem_split hmem⟩
    rw [← String.toList_inj]
    simpa [Text.join] using hjoin.symm

end Dots

/-! ### Looking a name up -/

namespace Action

/-- In a world, the action has this value and leaves that world. -/
def Gives (x : Action σ α) (w : World σ) (a : α) (after : World σ) : Prop :=
  (x w).value = a ∧ (x w).world = after

namespace Gives

variable {β ε : Type} {x : ExceptT ε (Action σ) α} {w w₁ after : World σ}

theorem bind_ok {f : α → ExceptT ε (Action σ) β} {a : α} {b : Except ε β}
    (hx : x.run.Gives w (.ok a) w₁) (hf : (f a).run.Gives w₁ b after) :
    (x >>= f).run.Gives w b after := by
  obtain ⟨hvalue, rfl⟩ := hx
  rw [Gives, ExceptT.run_bind, value_bind, world_bind, hvalue]
  exact hf

theorem bind_error {f : α → ExceptT ε (Action σ) β} {e : ε}
    (hx : x.run.Gives w (.error e) after) : (x >>= f).run.Gives w (.error e) after := by
  obtain ⟨hvalue, rfl⟩ := hx
  rw [Gives, ExceptT.run_bind, value_bind, world_bind, hvalue]
  exact ⟨rfl, rfl⟩

theorem tryCatch_ok {f : ε → ExceptT ε (Action σ) α} {a : α} (hx : x.run.Gives w (.ok a) after) :
    (tryCatch x f).run.Gives w (.ok a) after := by
  obtain ⟨hvalue, rfl⟩ := hx
  rw [Gives, ExceptT.run_tryCatch, value_bind, world_bind, hvalue]
  exact ⟨rfl, rfl⟩

theorem tryCatch_error {f : ε → ExceptT ε (Action σ) α} {e : ε} {b : Except ε α}
    (hx : x.run.Gives w (.error e) w₁) (hf : (f e).run.Gives w₁ b after) :
    (tryCatch x f).run.Gives w b after := by
  obtain ⟨hvalue, rfl⟩ := hx
  rw [Gives, ExceptT.run_tryCatch, value_bind, world_bind, hvalue]
  exact hf

end Gives

end Action

namespace ModuleLoader

/-- How the module of a dotted name is looked up: the calls that are made one after another, what comes
of them, and the world that is left. The name is imported as it is. If that fails and the name has
a part before its last dot, this part is imported, and stands for the name if the part behind the dot
is an attribute of it. Errors of these further calls take the place of the first one; an attribute
that is missing does not. -/
inductive Lookup (loader : ModuleLoader σ) (target : String) (w : World σ) :
    List Call → Except LoadError LoadedModule → World σ → Prop
  | direct {m : LoadedModule} {after : World σ}
      (found : (loader.importModule target).run.Gives w (.ok m) after) :
      Lookup loader target w [.importModule target] (.ok m) after
  | whole {e : LoadError} {after : World σ}
      (failed : (loader.importModule target).run.Gives w (.error e) after)
      (uncut : ∀ parent last, target = parent ++ "." ++ last → '.' ∉ last.toList → parent = "") :
      Lookup loader target w [.importModule target] (.error e) after
  | parentFailed {e e' : LoadError} {parent last : String} {w₁ after : World σ}
      (failed : (loader.importModule target).run.Gives w (.error e) w₁)
      (cut : target = parent ++ "." ++ last) (lastCut : '.' ∉ last.toList) (named : parent ≠ "")
      (parentFailed : (loader.importModule parent).run.Gives w₁ (.error e') after) :
      Lookup loader target w [.importModule target, .importModule parent] (.error e') after
  | attributeFailed {e e' : LoadError} {parent last : String} {m : LoadedModule}
      {w₁ w₂ after : World σ}
      (failed : (loader.importModule target).run.Gives w (.error e) w₁)
      (cut : target = parent ++ "." ++ last) (lastCut : '.' ∉ last.toList) (named : parent ≠ "")
      (parentFound : (loader.importModule parent).run.Gives w₁ (.ok m) w₂)
      (attributeFailed : (loader.hasAttribute m last).run.Gives w₂ (.error e') after) :
      Lookup loader target w
        [.importModule target, .importModule parent, .hasAttribute m last] (.error e') after
  | attributeFound {e : LoadError} {parent last : String} {m : LoadedModule}
      {w₁ w₂ after : World σ}
      (failed : (loader.importModule target).run.Gives w (.error e) w₁)
      (cut : target = parent ++ "." ++ last) (lastCut : '.' ∉ last.toList) (named : parent ≠ "")
      (parentFound : (loader.importModule parent).run.Gives w₁ (.ok m) w₂)
      (attributeFound : (loader.hasAttribute m last).run.Gives w₂ (.ok true) after) :
      Lookup loader target w
        [.importModule target, .importModule parent, .hasAttribute m last] (.ok m) after
  | attributeMissing {e : LoadError} {parent last : String} {m : LoadedModule}
      {w₁ w₂ after : World σ}
      (failed : (loader.importModule target).run.Gives w (.error e) w₁)
      (cut : target = parent ++ "." ++ last) (lastCut : '.' ∉ last.toList) (named : parent ≠ "")
      (parentFound : (loader.importModule parent).run.Gives w₁ (.ok m) w₂)
      (attributeMissing : (loader.hasAttribute m last).run.Gives w₂ (.ok false) after) :
      Lookup loader target w
        [.importModule target, .importModule parent, .hasAttribute m last] (.error e) after

variable {loader : ModuleLoader σ} {target : String} {w after : World σ} {calls : List Call}
  {result : Except LoadError LoadedModule}

theorem exists_lookup (loader : ModuleLoader σ) (target : String) (w : World σ) :
    ∃ calls result after, Lookup loader target w calls result after := by
  cases hdirect : ((loader.importModule target).run w).value with
  | ok m => exact ⟨_, _, _, .direct ⟨hdirect, rfl⟩⟩
  | error e =>
    cases hcut : splitLastDot? target with
    | none =>
      refine ⟨_, _, _, .whole ⟨hdirect, rfl⟩ fun parent last heq hlast => ?_⟩
      rw [heq, splitLastDot?_append hlast] at hcut
      cases hcut
    | some parts =>
      obtain ⟨parent, last⟩ := parts
      obtain ⟨heq, hlast⟩ := eq_of_splitLastDot? hcut
      by_cases hparent : parent = ""
      · refine ⟨_, _, _, .whole ⟨hdirect, rfl⟩ fun parent' last' heq' hlast' => ?_⟩
        rw [heq', splitLastDot?_append hlast'] at hcut
        cases hcut
        exact hparent
      · cases himport : ((loader.importModule parent).run
            ((loader.importModule target).run w).world).value with
        | error e' =>
          exact ⟨_, _, _, .parentFailed ⟨hdirect, rfl⟩ heq hlast hparent ⟨himport, rfl⟩⟩
        | ok m =>
          cases hmember : ((loader.hasAttribute m last).run ((loader.importModule parent).run
              ((loader.importModule target).run w).world).world).value with
          | error e' =>
            exact ⟨_, _, _, .attributeFailed ⟨hdirect, rfl⟩ heq hlast hparent ⟨himport, rfl⟩
              ⟨hmember, rfl⟩⟩
          | ok found =>
            cases found with
            | true =>
              exact ⟨_, _, _, .attributeFound ⟨hdirect, rfl⟩ heq hlast hparent ⟨himport, rfl⟩
                ⟨hmember, rfl⟩⟩
            | false =>
              exact ⟨_, _, _, .attributeMissing ⟨hdirect, rfl⟩ heq hlast hparent ⟨himport, rfl⟩
                ⟨hmember, rfl⟩⟩

/-- A name that can be cut, and can not be imported as it is, is left to the part before its last dot. -/
theorem importNamed_of_cut {e : LoadError} {parent last : String} {w₁ : World σ}
    (failed : (loader.importModule target).run.Gives w (.error e) w₁)
    (cut : target = parent ++ "." ++ last) (lastCut : '.' ∉ last.toList) (named : parent ≠ "")
    (h : (do
      let m ← loader.importModule parent
      if ← loader.hasAttribute m last then return m else throw e :
        ExceptT LoadError (Action σ) LoadedModule).run.Gives w₁ result after) :
    (loader.importNamed target).run.Gives w result after := by
  refine failed.tryCatch_error ?_
  rw [cut, splitLastDot?_append lastCut]
  simp only [named, if_false]
  exact h

/-- A module name is imported as its look-up says. -/
theorem Lookup.importNamed (h : Lookup loader target w calls result after) :
    (loader.importNamed target).run.Gives w result after := by
  cases h with
  | direct found => exact found.tryCatch_ok
  | whole failed uncut =>
    refine failed.tryCatch_error ?_
    cases hcut : splitLastDot? target with
    | none => exact ⟨rfl, rfl⟩
    | some parts =>
      obtain ⟨heq, hlast⟩ := eq_of_splitLastDot? hcut
      simp only [uncut _ _ heq hlast, if_true]
      exact ⟨rfl, rfl⟩
  | parentFailed failed cut lastCut named parentFailed =>
    exact importNamed_of_cut failed cut lastCut named parentFailed.bind_error
  | attributeFailed failed cut lastCut named parentFound attributeFailed =>
    exact importNamed_of_cut failed cut lastCut named (parentFound.bind_ok attributeFailed.bind_error)
  | attributeFound failed cut lastCut named parentFound attributeFound =>
    exact importNamed_of_cut failed cut lastCut named
      (parentFound.bind_ok (attributeFound.bind_ok ⟨rfl, rfl⟩))
  | attributeMissing failed cut lastCut named parentFound attributeMissing =>
    exact importNamed_of_cut failed cut lastCut named
      (parentFound.bind_ok (attributeMissing.bind_ok ⟨rfl, rfl⟩))

/-! ### The calls of a look-up -/

end ModuleLoader

/-- The world, with calls that were made so far. -/
def World.withCalls (w : World σ) (calls : List Call) : World (Watched σ) :=
  ⟨w.files, w.clock, ⟨w.host, calls⟩⟩

namespace ModuleLoader

variable {loader : ModuleLoader σ} {target : String} {w after : World σ} {calls : List Call}
  {result : Except LoadError LoadedModule}

theorem importModule_watched {dotted : String}
    (h : (loader.importModule dotted).run.Gives w result after) (past : List Call) :
    (loader.watched.importModule dotted).run.Gives (w.withCalls past) result
      (after.withCalls (past ++ [.importModule dotted])) := by
  obtain ⟨rfl, rfl⟩ := h
  exact ⟨rfl, rfl⟩

theorem hasAttribute_watched {m : LoadedModule} {member : String} {reply : Except LoadError Bool}
    (h : (loader.hasAttribute m member).run.Gives w reply after) (past : List Call) :
    (loader.watched.hasAttribute m member).run.Gives (w.withCalls past) reply
      (after.withCalls (past ++ [.hasAttribute m member])) := by
  obtain ⟨rfl, rfl⟩ := h
  exact ⟨rfl, rfl⟩

/-- A look-up that is watched makes the calls that it tells of, and writes them down. -/
theorem Lookup.watched (h : Lookup loader target w calls result after) :
    Lookup loader.watched target w.watched calls result (after.withCalls calls) := by
  cases h with
  | direct found => exact .direct (importModule_watched found [])
  | whole failed uncut => exact .whole (importModule_watched failed []) uncut
  | parentFailed failed cut lastCut named parentFailed =>
    exact .parentFailed (importModule_watched failed []) cut lastCut named
      (importModule_watched parentFailed _)
  | attributeFailed failed cut lastCut named parentFound attributeFailed =>
    exact .attributeFailed (importModule_watched failed []) cut lastCut named
      (importModule_watched parentFound _) (hasAttribute_watched attributeFailed _)
  | attributeFound failed cut lastCut named parentFound attributeFound =>
    exact .attributeFound (importModule_watched failed []) cut lastCut named
      (importModule_watched parentFound _) (hasAttribute_watched attributeFound _)
  | attributeMissing failed cut lastCut named parentFound attributeMissing =>
    exact .attributeMissing (importModule_watched failed []) cut lastCut named
      (importModule_watched parentFound _) (hasAttribute_watched attributeMissing _)

/-- A name is looked up in one way only. -/
theorem Lookup.unique {calls' : List Call} {result' : Except LoadError LoadedModule}
    {after' : World σ} (h : Lookup loader target w calls result after)
    (h' : Lookup loader target w calls' result' after') :
    calls' = calls ∧ result' = result ∧ after' = after := by
  obtain ⟨hvalue, hworld⟩ := h.watched.importNamed
  obtain ⟨hvalue', hworld'⟩ := h'.watched.importNamed
  have hsame : after'.withCalls calls' = after.withCalls calls := hworld'.symm.trans hworld
  refine ⟨congrArg (·.host.calls) hsame, hvalue'.symm.trans hvalue, congrArg World.unwatched hsame⟩

/-! ### Resolving by a look-up -/

section Resolving

variable {registry : Registry} {r : Reference}

/-- A module name that is not registered is resolved by looking it up. -/
theorem resolve_of_lookup (hkind : r.kind = .named) (hfree : registry.get? r.raw = none)
    (h : Lookup loader r.importTarget w calls result after) :
    let found := loader.resolve registry r w
    found.world = after ∧
      (∀ l, result = .ok l → found.value =
        (.ok ⟨r.raw, l.importName, l.source, r⟩, registry.register ⟨r.raw, l.importName, l.source, r⟩)) ∧
      ∀ e, result = .error e → found.value = (.error ⟨r.raw, e⟩, registry) := by
  intro found
  have hname : r.logicalName = r.raw := by rw [Reference.logicalName, hkind]
  have hregistered : registered? registry r = none := by
    rw [registered?, hkind, hname]
    exact hfree
  obtain ⟨hvalue, hworld⟩ : (loader.load r).run.Gives w result after := by
    rw [load, hkind]
    exact h.importNamed
  cases result with
  | error e =>
    obtain ⟨hfound, hafter⟩ := loader.resolve_of_error hregistered hvalue
    rw [hname] at hfound
    refine ⟨hafter.trans hworld, ?_, ?_⟩
    · rintro _ ⟨⟩
    · rintro _ ⟨⟩
      exact hfound
  | ok l =>
    obtain ⟨hfound, hafter⟩ := loader.resolve_of_ok hregistered hvalue
    rw [hname] at hfound
    refine ⟨hafter.trans hworld, ?_, ?_⟩
    · rintro _ ⟨⟩
      exact hfound
    · rintro _ ⟨⟩

/-- Resolving a module name that is not registered makes the calls of its look-up. -/
theorem callsOf_of_lookup (hkind : r.kind = .named) (hfree : registry.get? r.raw = none)
    (h : Lookup loader r.importTarget w calls result after) :
    loader.callsOf registry r w = calls := by
  obtain ⟨hworld, _⟩ := resolve_of_lookup hkind hfree h.watched
  exact congrArg (·.host.calls) hworld

end Resolving

end ModuleLoader

/-- A standard library is looked for in its package, with its whole name as the part behind the dot. -/
theorem Reference.importTarget_of_standard {r : Reference} (h : r.raw ∈ standardLibraries) :
    r.importTarget = "robot.libraries" ++ "." ++ r.raw ∧ '.' ∉ r.raw.toList := by
  have hpackage : standardPackage = "robot.libraries" ++ "." := by decide
  have hundotted : ∀ name ∈ standardLibraries, '.' ∉ name.toList := by decide
  rw [importTarget, if_pos h, hpackage]
  exact ⟨rfl, hundotted r.raw h⟩

namespace ModuleLoader

/-- **A module name that is not registered is resolved by looking it up, and by nothing else.** There is
one look-up of the module to import: its calls are the calls that are made, and it leaves the world
that is left. A module that is found is registered under the reference, with the import name and
the source that the loader gave; an error is reported under the reference and changes nothing. The
module to import is that of the reference itself, but for the standard libraries, whose package
comes before their names. -/
theorem resolve_by_lookup {r : Reference} {registry : Registry} (hkind : r.kind = .named)
    (hfree : registry.get? r.raw = none) (loader : ModuleLoader σ) (w : World σ) :
    let found := loader.resolve registry r w
    (∃ result,
      (∀ calls result' after, Lookup loader r.importTarget w calls result' after ↔
        calls = loader.callsOf registry r w ∧ result' = result ∧ after = found.world) ∧
      (∀ l, result = .ok l →
        let m : ResolvedModule := ⟨r.raw, l.importName, l.source, r⟩
        found.value = (.ok m, registry.register m) ∧ found.value.2.get? r.raw = some m) ∧
      ∀ e, result = .error e → found.value = (.error ⟨r.raw, e⟩, registry)) ∧
    (r.raw ∉ Reference.standardLibraries → r.importTarget = r.raw) ∧
    (r.raw ∈ Reference.standardLibraries →
      r.importTarget = "robot.libraries" ++ "." ++ r.raw ∧ '.' ∉ r.raw.toList) := by
  intro found
  obtain ⟨calls, result, after, h⟩ := exists_lookup loader r.importTarget w
  obtain ⟨hworld, hok, herror⟩ := resolve_of_lookup hkind hfree h
  have hcalls := callsOf_of_lookup hkind hfree h
  refine ⟨⟨result, fun calls' result' after' => ?_, fun l hl => ⟨hok l hl, ?_⟩, herror⟩,
    fun hother => if_neg hother, Reference.importTarget_of_standard⟩
  · rw [hcalls, show found.world = after from hworld]
    constructor
    · exact h.unique
    · rintro ⟨rfl, rfl, rfl⟩
      exact h
  · rw [show found.value = _ from hok l hl, Registry.get?_register, if_pos rfl]

end ModuleLoader

namespace Sample

/-- A loader that finds the package `pkg`, which has the class `Keywords` in it. -/
def package : LoaderTable where
  modules := [("pkg", .found none none)]
  files := []
  attributes := [("pkg", .inl ["Keywords"])]

end Sample

namespace ModuleLoader

/-- The class `Keywords` of the package `pkg`: it is no module, but the package has it. -/
theorem resolve_by_lookup_sample :
    let r : Reference := ⟨"pkg.Keywords"⟩
    let found := Sample.package.loader.resolve .empty r Sample.world
    let m : ResolvedModule := ⟨"pkg.Keywords", "pkg", none, r⟩
    r.kind = .named ∧ Registry.empty.get? r.raw = none ∧
      Sample.package.loader.callsOf .empty r Sample.world =
        [.importModule "pkg.Keywords", .importModule "pkg", .hasAttribute ⟨"pkg", none⟩ "Keywords"] ∧
      found.value = (.ok m, Registry.empty.register m) := by
  have hkind : (Reference.mk "pkg.Keywords").kind = .named := by decide +kernel
  obtain ⟨⟨result, hlookup, hok, _⟩, _⟩ :=
    resolve_by_lookup hkind (Registry.get?_empty _) Sample.package.loader Sample.world
  have found : Lookup Sample.package.loader (Reference.mk "pkg.Keywords").importTarget Sample.world
      [.importModule "pkg.Keywords", .importModule "pkg", .hasAttribute ⟨"pkg", none⟩ "Keywords"]
      (.ok ⟨"pkg", none⟩) _ :=
    .attributeFound ⟨rfl, rfl⟩ (by decide) (by decide) (by decide) ⟨rfl, rfl⟩ ⟨rfl, rfl⟩
  obtain ⟨hcalls, hresult, _⟩ := (hlookup _ _ _).mp found
  exact ⟨hkind, rfl, hcalls.symm, (hok _ hresult.symm).1⟩

end ModuleLoader

end KeywordDocs
