import KeywordDocs.Library.Reference

/-!
# The registry of loaded modules

A module stays registered under the name it was loaded by until that name is released.
-/

namespace KeywordDocs

/-- A library reference bound to the module that was loaded for it. -/
structure ResolvedModule where
  /-- The name the module is registered under. -/
  name : String
  /-- The name it was imported by. -/
  importName : String
  source : Option Path
  reference : Reference
  deriving DecidableEq, Repr

/-- The modules that are loaded, at most one per name. -/
structure Registry where
  modules : List ResolvedModule
  deriving DecidableEq, Repr

namespace Registry

/-- The registry without modules. -/
def empty : Registry := ⟨[]⟩

/-- The module registered under a name. -/
def get? (r : Registry) (name : String) : Option ResolvedModule :=
  r.modules.find? (·.name = name)

/-- Is a module registered under this name? -/
def contains (r : Registry) (name : String) : Bool := r.modules.any (·.name = name)

/-- Takes back the registration of a name. -/
def erase (r : Registry) (name : String) : Registry := ⟨r.modules.filter (·.name ≠ name)⟩

/-- Releases a name: tells whether a module was registered under it, and takes that back. -/
def release (r : Registry) (name : String) : Bool × Registry := (r.contains name, r.erase name)

/-- Registers a module under its name, in place of the one that had the name. -/
def register (r : Registry) (m : ResolvedModule) : Registry := ⟨m :: (r.erase m.name).modules⟩

/-- The number of modules. -/
def size (r : Registry) : Nat := r.modules.length

@[simp]
theorem get?_empty (name : String) : empty.get? name = none := rfl

/-- A name is registered when a module is found under it. -/
theorem contains_eq_isSome_get? (r : Registry) (name : String) :
    r.contains name = (r.get? name).isSome := by
  rw [Bool.eq_iff_iff, contains, get?, List.any_eq_true, List.find?_isSome]

/-- Erasing a name touches no other name. -/
theorem get?_erase (r : Registry) (name other : String) :
    (r.erase name).get? other = if other = name then none else r.get? other := by
  by_cases h : other = name
  · subst h
    simp [erase, get?]
  · rw [if_neg h, erase, get?, get?, List.find?_filter]
    congr 1
    funext m
    by_cases hm : m.name = other
    · simp [hm, h]
    · simp [hm]

/-- Registering a module touches no name but its own. -/
theorem get?_register (r : Registry) (m : ResolvedModule) (name : String) :
    (r.register m).get? name = if name = m.name then some m else r.get? name := by
  by_cases h : name = m.name
  · simp [register, get?, h]
  · have hm : ¬ m.name = name := fun e => h e.symm
    have herase := get?_erase r m.name name
    rw [if_neg h] at herase
    rw [if_neg h, ← herase]
    simp [register, get?, hm]

end Registry

end KeywordDocs
