import KeywordDocs.Proofs.Processing

/-!
# Watching a run

A loader and a generator are programs outside, so what a run does to them is told by its calls. A
watched processor writes down every call in order, the calls of the generator with what came of them,
and behaves otherwise as the processor it is made from (`runBatch_watched`).

All that is said of programs outside is carried from their calls to a run by one argument: where the
calls of two processors match, so do their runs (`Matches.processEach`, `Matches.runBatch`). The
invariants that no call breaks (`Keeps`) and the answers that depend on the question only (`Fixed`) are
cases of it, with a processor that matches itself.
-/

namespace KeywordDocs

/-- A call of a generator: its arguments, its reply, and the files before and after it. -/
structure Generation where
  reference : Reference
  cacheKey : String
  cacheDir : Path
  before : FileSystem
  reply : Except Failure Path
  after : FileSystem
  deriving DecidableEq

/-- A call of a loader or a generator. -/
inductive Call where
  | loadFile (name : String) (path : Path)
  | importModule (dotted : String)
  | hasAttribute (m : LoadedModule) (member : String)
  | generate (generation : Generation)

/-- The call of a generator, if it is one. -/
def Call.generation? : Call → Option Generation
  | .generate generation => some generation
  | _ => none

/-- The state of the programs outside, and the calls that were made, the first one first. -/
structure Watched (σ : Type) where
  state : σ
  calls : List Call

/-- The calls of the generator. -/
def Watched.generations {σ : Type} (h : Watched σ) : List Generation :=
  h.calls.filterMap Call.generation?

variable {σ α : Type}

/-- The world as it is, with no calls made so far. -/
def World.watched (w : World σ) : World (Watched σ) := ⟨w.files, w.clock, ⟨w.host, []⟩⟩

/-- The world without the calls that were written down. -/
def World.unwatched (w : World (Watched σ)) : World σ := ⟨w.files, w.clock, w.host.state⟩

theorem World.files_unwatched (w : World (Watched σ)) : w.unwatched.files = w.files := rfl

namespace Action

/-- The same action in a watched world. -/
def watched (x : Action σ α) : Action (Watched σ) α := fun w =>
  let o := x w.unwatched
  ⟨o.value, o.log, ⟨o.world.files, o.world.clock, ⟨o.world.host, w.host.calls⟩⟩⟩

/-- Writes a call down. -/
def noteCall (c : Call) : Action (Watched σ) Unit := fun w =>
  ⟨(), [], ⟨w.files, w.clock, ⟨w.host.state, w.host.calls ++ [c]⟩⟩⟩

end Action

/-- The loader, with its calls written down. -/
def ModuleLoader.watched (loader : ModuleLoader σ) : ModuleLoader (Watched σ) where
  loadFile name path := ExceptT.mk do
    Action.noteCall (.loadFile name path)
    (loader.loadFile name path).run.watched
  importModule dotted := ExceptT.mk do
    Action.noteCall (.importModule dotted)
    (loader.importModule dotted).run.watched
  hasAttribute m member := ExceptT.mk do
    Action.noteCall (.hasAttribute m member)
    (loader.hasAttribute m member).run.watched

/-- The generator, with its calls written down. -/
def Generator.watched (g : Generator σ) : Generator (Watched σ) := fun r key cacheDir =>
  ExceptT.mk do
    let before ← Action.files
    let reply ← (g r key cacheDir).run.watched
    let after ← Action.files
    Action.noteCall (.generate ⟨r, key, cacheDir, before, reply, after⟩)
    return reply

/-- The processor, with the calls of its tools written down. -/
def Processor.watched (p : Processor σ) : Processor (Watched σ) :=
  ⟨p.loader.watched, p.generator.watched⟩

/-! ### Actions that match -/

namespace Action

variable {τ β ε : Type} {S : World σ → World τ → Prop} {I : World σ → Prop}

/-- From related worlds both actions have the same value and lead to related worlds. -/
def Matches (S : World σ → World τ → Prop) (x : Action σ α) (y : Action τ α) : Prop :=
  ∀ w v, S w v → (x w).value = (y v).value ∧ S (x w).world (y v).world

/-- The action leads from each world in which the invariant holds to one in which it holds. -/
def Keeps (I : World σ → Prop) (x : Action σ α) : Prop := ∀ w, I w → I (x w).world

/-- The value of the action is the same in all worlds. -/
def Fixed (x : Action σ α) : Prop := ∀ w v, (x w).value = (x v).value

/-- Two worlds are the same one, in which the invariant holds. -/
def Both (I : World σ → Prop) (w v : World σ) : Prop := w = v ∧ I w

theorem matches_both_iff {x : Action σ α} : Matches (Both I) x x ↔ Keeps I x := by
  constructor
  · intro h w hw
    exact (h w w ⟨rfl, hw⟩).2.2
  · rintro h w v ⟨rfl, hw⟩
    exact ⟨rfl, rfl, h w hw⟩

theorem matches_true_iff {x : Action σ α} : Matches (fun _ _ => True) x x ↔ Fixed x := by
  constructor
  · intro h w v
    exact (h w v trivial).1
  · intro h w v _
    exact ⟨h w v, trivial⟩

namespace Matches

theorem pure (a : α) : Matches S (Pure.pure a) (Pure.pure a) := fun _ _ h => ⟨rfl, h⟩

theorem log (e : Event) : Matches S (Action.log e) (Action.log e) := fun _ _ h => ⟨rfl, h⟩

theorem files (hfiles : ∀ w v, S w v → w.files = v.files) : Matches S Action.files Action.files :=
  fun w v h => ⟨hfiles w v h, h⟩

theorem bind {x : Action σ α} {y : Action τ α} {f : α → Action σ β} {g : α → Action τ β}
    (hx : Matches S x y) (hf : ∀ a, Matches S (f a) (g a)) : Matches S (x >>= f) (y >>= g) := by
  intro w v h
  obtain ⟨hvalue, hworld⟩ := hx w v h
  rw [value_bind, value_bind, world_bind, world_bind, hvalue]
  exact hf _ _ _ hworld

variable {x : ExceptT ε (Action σ) α} {y : ExceptT ε (Action τ) α}

theorem run_bind {f : α → ExceptT ε (Action σ) β} {g : α → ExceptT ε (Action τ) β}
    (hx : Matches S x.run y.run) (hf : ∀ a, Matches S (f a).run (g a).run) :
    Matches S (x >>= f).run (y >>= g).run := by
  rw [ExceptT.run_bind, ExceptT.run_bind]
  refine hx.bind fun result => ?_
  cases result with
  | error e => exact pure _
  | ok a => exact hf a

theorem run_tryCatch {f : ε → ExceptT ε (Action σ) α} {g : ε → ExceptT ε (Action τ) α}
    (hx : Matches S x.run y.run) (hf : ∀ e, Matches S (f e).run (g e).run) :
    Matches S (tryCatch x f).run (tryCatch y g).run := by
  rw [ExceptT.run_tryCatch, ExceptT.run_tryCatch]
  refine hx.bind fun result => ?_
  cases result with
  | error e => exact hf e
  | ok a => exact pure _

theorem run_lift {x : Action σ α} {y : Action τ α} (hx : Matches S x y) :
    Matches S (ExceptT.lift x : ExceptT ε (Action σ) α).run (ExceptT.lift y).run := by
  rw [ExceptT.run_lift, ExceptT.run_lift]
  exact hx.bind fun a => pure (Except.ok a)

end Matches

end Action

namespace ModuleLoader

variable {τ : Type} {S : World σ → World τ → Prop} {a : ModuleLoader σ} {b : ModuleLoader τ}

/-- Each call of the one loader matches that of the other. -/
structure Matches (S : World σ → World τ → Prop) (a : ModuleLoader σ) (b : ModuleLoader τ) :
    Prop where
  loadFile : ∀ name path, Action.Matches S (a.loadFile name path).run (b.loadFile name path).run
  importModule : ∀ dotted, Action.Matches S (a.importModule dotted).run (b.importModule dotted).run
  hasAttribute : ∀ m member,
    Action.Matches S (a.hasAttribute m member).run (b.hasAttribute m member).run

namespace Matches

theorem importNamed (h : a.Matches S b) (dotted : String) :
    Action.Matches S (a.importNamed dotted).run (b.importNamed dotted).run := by
  refine (h.importModule dotted).run_tryCatch fun direct => ?_
  cases splitLastDot? dotted with
  | none => exact Action.Matches.pure _
  | some cut =>
    obtain ⟨parent, member⟩ := cut
    by_cases hparent : parent = ""
    · simp only [hparent, if_true]
      exact Action.Matches.pure _
    · simp only [hparent, if_false]
      refine (h.importModule parent).run_bind fun m => ?_
      refine (h.hasAttribute m member).run_bind fun found => ?_
      cases found with
      | false => exact Action.Matches.pure _
      | true => exact Action.Matches.pure _

theorem load (h : a.Matches S b) (r : Reference) :
    Action.Matches S (a.load r).run (b.load r).run := by
  rw [ModuleLoader.load, ModuleLoader.load]
  cases r.kind with
  | physical => exact h.loadFile r.logicalName r.path
  | named => exact h.importNamed r.importTarget

theorem resolve (h : a.Matches S b) (registry : Registry) (r : Reference) :
    Action.Matches S (a.resolve registry r) (b.resolve registry r) := by
  rw [ModuleLoader.resolve, ModuleLoader.resolve]
  cases registered? registry r with
  | some m => exact (Action.Matches.log _).bind fun _ => Action.Matches.pure _
  | none =>
    refine (h.load r).bind fun result => ?_
    cases result with
    | error e => exact Action.Matches.pure _
    | ok loaded => exact Action.Matches.pure _

end Matches

end ModuleLoader

namespace Processor

variable {τ : Type} {S : World σ → World τ → Prop} {p : Processor σ} {q : Processor τ}
  {cacheDir : Path}

/-- The calls of both processors for a directory match, and related worlds have the same files. -/
structure Matches (S : World σ → World τ → Prop) (cacheDir : Path) (p : Processor σ)
    (q : Processor τ) : Prop where
  files : ∀ w v, S w v → w.files = v.files
  loader : p.loader.Matches S q.loader
  generator : ∀ r key,
    Action.Matches S (p.generator r key cacheDir).run (q.generator r key cacheDir).run

namespace Matches

theorem check (h : p.Matches S cacheDir q) (key : String) (source : Option Path) :
    Action.Matches S (CacheCheck.run cacheDir key source) (CacheCheck.run cacheDir key source) := by
  refine (Action.Matches.files h.files).bind fun fs => ?_
  by_cases hstale : CacheCheck.look fs cacheDir key source = .stale
  · simp only [hstale, if_true]
    exact (Action.Matches.log _).bind fun _ => Action.Matches.pure _
  · simp only [hstale, if_false]
    exact (Action.Matches.pure _).bind fun _ => Action.Matches.pure _

theorem provide (h : p.Matches S cacheDir q) (r : Reference) (m : ResolvedModule) :
    Action.Matches S (p.provide cacheDir r m).run (q.provide cacheDir r m).run := by
  refine (Action.Matches.log _).run_lift.run_bind fun _ => ?_
  refine (h.check r.cacheKey m.source).run_lift.run_bind fun check => ?_
  cases check with
  | hit path => exact (Action.Matches.log _).run_lift.run_bind fun _ => Action.Matches.pure _
  | stale =>
    refine (Action.Matches.log _).run_lift.run_bind fun _ => ?_
    exact (h.generator r r.cacheKey).run_bind fun _ => Action.Matches.pure _
  | missing =>
    refine (Action.Matches.log _).run_lift.run_bind fun _ => ?_
    exact (h.generator r r.cacheKey).run_bind fun _ => Action.Matches.pure _

theorem attempt (h : p.Matches S cacheDir q) (registry : Registry) (r : Reference) :
    Action.Matches S (p.attempt cacheDir registry r) (q.attempt cacheDir registry r) := by
  refine (Action.Matches.log _).bind fun _ => (h.loader.resolve registry r).bind ?_
  rintro ⟨_ | m, after⟩
  · exact Action.Matches.pure _
  · refine (h.provide r m).bind ?_
    rintro (_ | _)
    · exact Action.Matches.pure _
    · exact Action.Matches.pure _

/-- Where the calls match, a library is processed alike. -/
theorem process (h : p.Matches S cacheDir q) (registry : Registry) (r : Reference) :
    Action.Matches S (p.process cacheDir registry r) (q.process cacheDir registry r) := by
  intro w v hS
  obtain ⟨hvalue, hworld⟩ := p.process_of_attempt cacheDir registry r w
  obtain ⟨hvalue', hworld'⟩ := q.process_of_attempt cacheDir registry r v
  obtain ⟨hattempt, hafter⟩ := h.attempt registry r w v hS
  rw [hvalue, hvalue', hworld, hworld', hattempt]
  exact ⟨rfl, hafter⟩

/-- Where the calls match, any number of libraries are processed alike. -/
theorem processEach (h : p.Matches S cacheDir q) (registry : Registry)
    (references : List Reference) :
    Action.Matches S (p.processEach cacheDir registry references)
      (q.processEach cacheDir registry references) := by
  induction references generalizing registry with
  | nil => exact Action.Matches.pure _
  | cons r rest ih =>
    refine (h.process registry r).bind fun first => ?_
    exact (ih first.2).bind fun after => Action.Matches.pure _

/-- Where the calls match, a batch is run alike. -/
theorem runBatch (h : p.Matches S cacheDir q)
    (hmake : Action.Matches S (makeCacheDir cacheDir) (makeCacheDir cacheDir))
    (environment : HostEnvironment) (registry : Registry) (references : List Reference) :
    Action.Matches S (p.runBatch environment cacheDir registry references)
      (q.runBatch environment cacheDir registry references) := by
  refine hmake.bind fun made => ?_
  cases made with
  | error e => exact Action.Matches.pure _
  | ok made =>
    simp only [processAll_eq, bind_assoc, pure_bind]
    refine (h.processEach registry references).bind fun done => ?_
    exact (Action.Matches.log _).bind fun _ => Action.Matches.pure _

end Matches

end Processor

/-! ### Invariants and fixed answers -/

namespace ModuleLoader

variable {I : World σ → Prop} {loader : ModuleLoader σ}

/-- No call of the loader breaks the invariant. -/
structure Keeps (I : World σ → Prop) (loader : ModuleLoader σ) : Prop where
  loadFile : ∀ name path, Action.Keeps I (loader.loadFile name path).run
  importModule : ∀ dotted, Action.Keeps I (loader.importModule dotted).run
  hasAttribute : ∀ m member, Action.Keeps I (loader.hasAttribute m member).run

theorem Keeps.both (h : loader.Keeps I) : loader.Matches (Action.Both I) loader where
  loadFile name path := Action.matches_both_iff.mpr (h.loadFile name path)
  importModule dotted := Action.matches_both_iff.mpr (h.importModule dotted)
  hasAttribute m member := Action.matches_both_iff.mpr (h.hasAttribute m member)

theorem Keeps.resolve (h : loader.Keeps I) (registry : Registry) (r : Reference) :
    Action.Keeps I (loader.resolve registry r) :=
  Action.matches_both_iff.mp (h.both.resolve registry r)

/-- The answers of the loader depend on the question only, and no question changes a file. -/
structure Fixed (loader : ModuleLoader σ) : Prop where
  loadFile : ∀ name path, Action.Fixed (loader.loadFile name path).run
  importModule : ∀ dotted, Action.Fixed (loader.importModule dotted).run
  hasAttribute : ∀ m member, Action.Fixed (loader.hasAttribute m member).run
  files : ∀ fs, loader.Keeps (·.files = fs)

/-- A loader with fixed answers loads the same module for a reference every time. -/
theorem Fixed.load (h : loader.Fixed) (r : Reference) : Action.Fixed (loader.load r).run := by
  have hmatches : loader.Matches (fun _ _ => True) loader :=
    { loadFile := fun name path => Action.matches_true_iff.mpr (h.loadFile name path)
      importModule := fun dotted => Action.matches_true_iff.mpr (h.importModule dotted)
      hasAttribute := fun m member => Action.matches_true_iff.mpr (h.hasAttribute m member) }
  exact Action.matches_true_iff.mp (hmatches.load r)

theorem Fixed.files_resolve (h : loader.Fixed) (registry : Registry) (r : Reference) (w : World σ) :
    (loader.resolve registry r w).world.files = w.files :=
  (h.files w.files).resolve registry r w rfl

end ModuleLoader

namespace Processor

variable {I : World σ → Prop} {p : Processor σ} {cacheDir : Path}

/-- No call of the loader, or of the generator for this directory, breaks the invariant. -/
structure Keeps (I : World σ → Prop) (cacheDir : Path) (p : Processor σ) : Prop where
  loader : p.loader.Keeps I
  generator : ∀ r key, Action.Keeps I (p.generator r key cacheDir).run

theorem Keeps.both (h : p.Keeps I cacheDir) : p.Matches (Action.Both I) cacheDir p where
  files _ _ hboth := congrArg World.files hboth.1
  loader := h.loader.both
  generator r key := Action.matches_both_iff.mpr (h.generator r key)

/-- What no call breaks, a run does not. -/
theorem Keeps.processEach (h : p.Keeps I cacheDir) (registry : Registry)
    (references : List Reference) : Action.Keeps I (p.processEach cacheDir registry references) :=
  Action.matches_both_iff.mp (h.both.processEach registry references)

end Processor

/-! ### Watching changes nothing -/

/-- The one world is the other, with calls written down. -/
def World.Watches (w : World (Watched σ)) (v : World σ) : Prop := w.unwatched = v

namespace Action

variable {I : World σ → Prop} {x : Action (Watched σ) α} {y : Action σ α}

theorem Keeps.watched (h : Matches World.Watches x y) (hy : Keeps I y) :
    Keeps (fun w => I w.unwatched) x := by
  intro w hw
  rw [(h w w.unwatched rfl).2]
  exact hy w.unwatched hw

theorem Fixed.watched (h : Matches World.Watches x y) (hy : Fixed y) : Fixed x := by
  intro w v
  rw [(h w w.unwatched rfl).1, (h v v.unwatched rfl).1]
  exact hy w.unwatched v.unwatched

/-- An action that is watched after its call was written down is the action itself. -/
theorem noteCall_matches (c : Call) (y : Action σ α) :
    Matches World.Watches (do noteCall c; y.watched) y := by
  rintro w _ rfl
  exact ⟨rfl, rfl⟩

end Action

theorem ModuleLoader.watched_matches (loader : ModuleLoader σ) :
    loader.watched.Matches World.Watches loader where
  loadFile name path := Action.noteCall_matches (.loadFile name path) (loader.loadFile name path).run
  importModule dotted := Action.noteCall_matches (.importModule dotted) (loader.importModule dotted).run
  hasAttribute m member :=
    Action.noteCall_matches (.hasAttribute m member) (loader.hasAttribute m member).run

/-- What a call of a watched generator leaves. -/
theorem Generator.watched_run (g : Generator σ) (r : Reference) (key : String) (cacheDir : Path)
    (w : World (Watched σ)) :
    let o := (g r key cacheDir).run w.unwatched
    ((g.watched r key cacheDir).run w).value = o.value ∧
      ((g.watched r key cacheDir).run w).world =
        ⟨o.world.files, o.world.clock, o.world.host,
          w.host.calls ++ [.generate ⟨r, key, cacheDir, w.files, o.value, o.world.files⟩]⟩ :=
  ⟨rfl, rfl⟩

theorem Processor.watched_matches (p : Processor σ) (cacheDir : Path) :
    p.watched.Matches World.Watches cacheDir p where
  files w _ hw := congrArg World.files hw
  loader := p.loader.watched_matches
  generator r key := by
    rintro w _ rfl
    obtain ⟨hvalue, hworld⟩ := Generator.watched_run p.generator r key cacheDir w
    exact ⟨hvalue, congrArg World.unwatched hworld⟩

namespace ModuleLoader

variable {I : World σ → Prop} {loader : ModuleLoader σ}

theorem Keeps.watched (h : loader.Keeps I) : loader.watched.Keeps (fun w => I w.unwatched) where
  loadFile name path := (h.loadFile name path).watched (loader.watched_matches.loadFile name path)
  importModule dotted := (h.importModule dotted).watched (loader.watched_matches.importModule dotted)
  hasAttribute m member :=
    (h.hasAttribute m member).watched (loader.watched_matches.hasAttribute m member)

theorem Fixed.watched (h : loader.Fixed) : loader.watched.Fixed where
  loadFile name path := (h.loadFile name path).watched (loader.watched_matches.loadFile name path)
  importModule dotted := (h.importModule dotted).watched (loader.watched_matches.importModule dotted)
  hasAttribute m member :=
    (h.hasAttribute m member).watched (loader.watched_matches.hasAttribute m member)
  files fs := (h.files fs).watched

/-- No call of a loader is one of the generator. -/
theorem watched_keeps_generations (loader : ModuleLoader σ) (P : List Generation → Prop) :
    loader.watched.Keeps (fun w => P w.host.generations) := by
  have hcall : ∀ (c : Call) (w : World (Watched σ)), c.generation? = none → P w.host.generations →
      P ((w.host.calls ++ [c]).filterMap Call.generation?) := by
    intro c w hc hw
    rw [List.filterMap_append, List.filterMap_cons_none hc, List.filterMap_nil, List.append_nil]
    exact hw
  exact
    { loadFile := fun name path w hw => hcall (.loadFile name path) w rfl hw
      importModule := fun dotted w hw => hcall (.importModule dotted) w rfl hw
      hasAttribute := fun m member w hw => hcall (.hasAttribute m member) w rfl hw }

end ModuleLoader

namespace Processor

theorem Keeps.watched {I : World σ → Prop} {p : Processor σ} {cacheDir : Path}
    (h : p.Keeps I cacheDir) : p.watched.Keeps (fun w => I w.unwatched) cacheDir where
  loader := h.loader.watched
  generator r key := (h.generator r key).watched ((p.watched_matches cacheDir).generator r key)

/-- A call of a watched generator is written down behind those before. -/
theorem generations_watched (p : Processor σ) (r : Reference) (key : String) (cacheDir : Path)
    (w : World (Watched σ)) :
    ((p.watched.generator r key cacheDir).run w).world.host.generations =
      w.host.generations ++ [⟨r, key, cacheDir, w.files,
        ((p.watched.generator r key cacheDir).run w).value,
        ((p.watched.generator r key cacheDir).run w).world.files⟩] := by
  change (w.host.calls ++ [_]).filterMap Call.generation? = _
  rw [List.filterMap_append]
  rfl

/-- No call that was written down is lost. -/
theorem watched_keeps_prefix (p : Processor σ) (cacheDir : Path) (gs : List Generation) :
    p.watched.Keeps (fun w => gs <+: w.host.generations) cacheDir where
  loader := p.loader.watched_keeps_generations (gs <+: ·)
  generator r key w hw := by
    change gs <+: ((p.watched.generator r key cacheDir).run w).world.host.generations
    rw [p.generations_watched]
    exact hw.trans (List.prefix_append _ _)

end Processor

end KeywordDocs
