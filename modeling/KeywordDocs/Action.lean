import KeywordDocs.Event
import KeywordDocs.FileSystem.Update

/-!
# Actions on the outside world

Everything that lies outside a run is in its `World`: the file system, the clock, and the state `σ` of
the programs that the run calls on. An action has a value, logs events and leaves a world behind. The
log is only written: no action can depend on what was logged before it.
-/

namespace KeywordDocs

/-- What a run can see and change: the file system, the time of the clock, and the state of the programs
it calls. -/
structure World (σ : Type) where
  files : FileSystem
  clock : Time
  host : σ
  deriving Repr

/-- What comes of an action. -/
structure Outcome (σ α : Type) where
  value : α
  log : List Event
  world : World σ

/-- An action: what comes of it in each world. -/
def Action (σ α : Type) : Type := World σ → Outcome σ α

namespace Action

variable {σ α β : Type}

/-- The action that does nothing. -/
protected def pure (a : α) : Action σ α := fun w => ⟨a, [], w⟩

/-- One action after another. -/
protected def bind (x : Action σ α) (f : α → Action σ β) : Action σ β := fun w =>
  let first := x w
  let second := f first.value first.world
  ⟨second.value, first.log ++ second.log, second.world⟩

instance : Monad (Action σ) where
  pure := Action.pure
  bind := Action.bind

instance : LawfulMonad (Action σ) := LawfulMonad.mk' _
  (fun x => funext fun w => by
    change Outcome.mk (x w).value ((x w).log ++ []) (x w).world = x w
    rw [List.append_nil])
  (fun _ _ => funext fun _ => rfl)
  (fun x f g => funext fun w => by
    change Outcome.mk _ (((x w).log ++ _) ++ _) _ = Outcome.mk _ ((x w).log ++ (_ ++ _)) _
    rw [List.append_assoc]
    rfl)

/-- The second of two actions decides on the value. -/
@[simp]
theorem value_bind (x : Action σ α) (f : α → Action σ β) (w : World σ) :
    ((x >>= f) w).value = (f (x w).value (x w).world).value := rfl

/-- The second of two actions starts from the world that the first one leaves. -/
@[simp]
theorem world_bind (x : Action σ α) (f : α → Action σ β) (w : World σ) :
    ((x >>= f) w).world = (f (x w).value (x w).world).world := rfl

/-- Two actions log one after the other. -/
@[simp]
theorem log_bind (x : Action σ α) (f : α → Action σ β) (w : World σ) :
    ((x >>= f) w).log = (x w).log ++ (f (x w).value (x w).world).log := rfl

/-- Logs an event. -/
def log (e : Event) : Action σ Unit := fun w => ⟨(), [e], w⟩

/-- Logs an event on the way to a result that may fail. -/
def note {ε : Type} (e : Event) : ExceptT ε (Action σ) Unit := ExceptT.lift (log e)

/-- Looks at the file system. -/
def files : Action σ FileSystem := fun w => ⟨w.files, [], w⟩

/-- Changes the file system at the time of the clock and gives a result. -/
def updateFiles (f : Time → FileSystem → α × FileSystem) : Action σ α := fun w =>
  let (a, fs) := f w.clock w.files
  ⟨a, [], { w with files := fs }⟩

/-- Changes the state of the programs outside and gives a result. -/
def updateHost (f : σ → α × σ) : Action σ α := fun w =>
  let (a, s) := f w.host
  ⟨a, [], { w with host := s }⟩

end Action

end KeywordDocs
