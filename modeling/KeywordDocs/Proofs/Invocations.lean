import KeywordDocs.CommandLine.Program
import KeywordDocs.Proofs.Calls
import KeywordDocs.Proofs.Encoding

/-!
# Calls of the interpreter

All that a run does outside its file system goes through the machine, in calls that see one value of
`PYTHONPATH`. Where two machines answer these calls alike, everything that is built on the interpreter
behaves alike: a single call (`call_matches`), the loader and the generator (`loader_matches`,
`generator_matches`), and a whole run from its first call on (`reportWith_matches`). A machine that
matches itself gives the invariants that no call breaks, as for loaders and generators before.
-/

namespace KeywordDocs

variable {σ τ α β ε : Type} {S : World σ → World τ → Prop}

theorem Action.Matches.run_adapt {x : ExceptT ε (Action σ) α} {y : ExceptT ε (Action τ) α} {δ : Type}
    (h : Matches S x.run y.run) (f : ε → δ) : Matches S (x.adapt f).run (y.adapt f).run := by
  rw [ExceptT.run_adapt, ExceptT.run_adapt]
  intro w v hS
  obtain ⟨hvalue, hworld⟩ := h w v hS
  exact ⟨congrArg (Except.mapError f) hvalue, hworld⟩

namespace Action

variable {x : ExceptT ε (Action σ) α} {f : α → ExceptT ε (Action σ) β} {w : World σ}

theorem run_bind_of_ok {a : α} (h : (x.run w).value = .ok a) :
    ((x >>= f).run w).value = ((f a).run (x.run w).world).value ∧
      ((x >>= f).run w).world = ((f a).run (x.run w).world).world := by
  rw [ExceptT.run_bind, value_bind, world_bind, h]
  exact ⟨rfl, rfl⟩

theorem run_bind_of_error {e : ε} (h : (x.run w).value = .error e) :
    ((x >>= f).run w).value = .error e ∧ ((x >>= f).run w).world = (x.run w).world := by
  rw [ExceptT.run_bind, value_bind, world_bind, h]
  exact ⟨rfl, rfl⟩

theorem run_bind_eq_ok_iff {b : β} :
    ((x >>= f).run w).value = .ok b ↔
      ∃ a, (x.run w).value = .ok a ∧ ((f a).run (x.run w).world).value = .ok b := by
  cases h : (x.run w).value with
  | error e =>
    rw [(run_bind_of_error h).1]
    refine iff_of_false (fun hvalue => by cases hvalue) ?_
    rintro ⟨a, ha, _⟩
    cases ha
  | ok a =>
    rw [(run_bind_of_ok h).1]
    refine ⟨fun hvalue => ⟨a, rfl, hvalue⟩, ?_⟩
    rintro ⟨_, ⟨⟩, hvalue⟩
    exact hvalue

end Action

/-! ### Machines -/

/-- Both machines have the same variables, and their programs behave alike when they are called with this
value of `PYTHONPATH`. -/
structure Machine.Matches (S : World σ → World τ → Prop) (pythonPath : Option Bytes) (m : Machine σ)
    (n : Machine τ) : Prop where
  vars : n.vars = m.vars
  files : ∀ w v, S w v → w.files = v.files
  execute : ∀ arguments,
    Action.Matches S (m.execute ⟨arguments, pythonPath⟩) (n.execute ⟨arguments, pythonPath⟩)

/-- Each call of the interpreter sees this value of `PYTHONPATH`. -/
def Interpreter.Sees (i : Interpreter) (v : Variables) (pythonPath : Option Bytes) : Prop :=
  ∀ own, i.pythonPath v = .ok own → (own <|> v.get? "PYTHONPATH") = pythonPath

variable {pythonPath : Option Bytes} {m : Machine σ} {n : Machine τ} {i : Interpreter}

theorem Machine.Matches.run (h : m.Matches S pythonPath n) {c : Command}
    (hpath : (c.pythonPath <|> m.vars.get? "PYTHONPATH") = pythonPath) :
    Action.Matches S (m.run c) (n.run c) := by
  unfold Machine.run
  rw [h.vars, hpath]
  dsimp only
  split
  · exact Action.Matches.pure _
  · refine (Action.Matches.files h.files).bind fun fs => ?_
    cases fs.startProgram m.vars c.executable with
    | error e => exact Action.Matches.pure _
    | ok before =>
      dsimp only
      split
      · exact Action.Matches.pure _
      · exact (h.execute _).bind fun output => Action.Matches.pure _

namespace Interpreter

/-- An interpreter sees one value of `PYTHONPATH` in all its calls. -/
theorem exists_sees (i : Interpreter) (v : Variables) : ∃ pythonPath, i.Sees v pythonPath := by
  cases h : i.pythonPath v with
  | error e => exact ⟨none, fun own hown => by rw [h] at hown; cases hown⟩
  | ok own =>
    refine ⟨own <|> v.get? "PYTHONPATH", fun own' hown => ?_⟩
    rw [h] at hown
    cases hown
    rfl

/-- An interpreter whose search paths can not be handed on is not called. -/
theorem call_of_error {e : Failure} (h : i.pythonPath m.vars = .error e) (arguments : List Bytes)
    (w : World σ) :
    ((i.call m arguments).run w).value = .error e ∧ ((i.call m arguments).run w).world = w := by
  unfold call
  rw [h]
  exact ⟨rfl, rfl⟩

section Matches

variable (h : m.Matches S pythonPath n) (sees : i.Sees m.vars pythonPath)
include h sees

theorem call_matches (arguments : List Bytes) :
    Action.Matches S (i.call m arguments).run (i.call n arguments).run := by
  unfold call
  rw [h.vars]
  cases hpath : i.pythonPath m.vars with
  | error e => exact Action.Matches.pure _
  | ok own =>
    rw [call.liftExcept, pure_bind]
    refine (Action.Matches.log _).run_lift.run_bind fun _ => ?_
    refine (h.run (sees own hpath)).run_lift.run_bind fun result => ?_
    cases result with
    | error e => exact Action.Matches.pure _
    | ok output => exact Action.Matches.pure _

theorem probe_matches (mode : ProbeMode) (target extra : String) :
    Action.Matches S (i.probe m mode target extra).run (i.probe n mode target extra).run := by
  refine ((call_matches h sees _).run_adapt _).run_bind fun output => ?_
  cases Json.readLastLine? ProbeReply.ofTerm? output.stdoutText with
  | none => exact Action.Matches.pure _
  | some reply =>
    refine (Action.Matches.log _).run_lift.run_bind fun _ => ?_
    cases reply.ok with
    | false => exact Action.Matches.pure _
    | true => exact Action.Matches.pure _

theorem loader_matches : (i.loader m).Matches S (i.loader n) where
  loadFile _ _ := (probe_matches h sees _ _ _).run_bind fun _ => Action.Matches.pure _
  importModule _ := (probe_matches h sees _ _ _).run_bind fun _ => Action.Matches.pure _
  hasAttribute _ _ := (probe_matches h sees _ _ _).run_bind fun _ => Action.Matches.pure _

theorem generator_matches (r : Reference) (key : String) (cacheDir : Path) :
    Action.Matches S (i.generator m r key cacheDir).run (i.generator n r key cacheDir).run := by
  refine ((call_matches h sees _).run_adapt _).run_bind fun output => ?_
  split
  · exact Action.Matches.pure _
  · refine (Action.Matches.files h.files).run_lift.run_bind fun fs => ?_
    split
    · exact Action.Matches.pure _
    · exact (Action.Matches.log _).run_lift.run_bind fun _ => Action.Matches.pure _

theorem survey_matches : Action.Matches S (i.survey m).run (i.survey n).run := by
  unfold survey
  rw [h.vars]
  refine ((call_matches h sees _).run_adapt _).run_bind fun output => ?_
  split
  · exact Action.Matches.pure _
  · split
    · exact Action.Matches.pure _
    · exact Action.Matches.pure _

end Matches

/-- What no call of a program breaks, no call of the interpreter does. -/
theorem call_keeps {I : World σ → Prop} (keeps : ∀ invocation, Action.Keeps I (m.execute invocation))
    (i : Interpreter) (arguments : List Bytes) : Action.Keeps I (i.call m arguments).run := by
  obtain ⟨pythonPath, sees⟩ := i.exists_sees m.vars
  have hmatches : m.Matches (Action.Both I) pythonPath m :=
    { vars := rfl
      files := fun _ _ h => congrArg World.files h.1
      execute := fun arguments => Action.matches_both_iff.mpr (keeps ⟨arguments, pythonPath⟩) }
  exact Action.matches_both_iff.mp (call_matches hmatches sees arguments)

end Interpreter

/-- The script of probes in bytes, line by line. -/
theorem encode_probeScript : Utf8.encode probeScript =
    Text.join 10 (probeLines.map fun line => line.toByteArray.data.toList) := by
  rw [probeScript, Utf8.encode_intercalate_newline, funext Utf8.encode_eq_toByteArray]

/-! ### Runs -/

namespace Program

/-- The call that asks for Robot Framework. -/
def askForRobot (m : Machine σ) (i : Interpreter) : Action σ (Except Failure Output) :=
  (i.runScript m ("import " ++ robotModule) []).run

/-- What is made of the answer to the first call. -/
def robotFound : Except Failure Output → Except Failure Unit
  | .ok output => if output.status.isSuccess then .ok () else .error (.root .robotMissing)
  | .error e => .error (e.within .robotMissing)

/-- Making sure of Robot Framework takes one call. -/
theorem requireRobot_eq (m : Machine σ) (i : Interpreter) (w : World σ) :
    ((requireRobot m i).run w).value = robotFound (askForRobot m i w).value ∧
      ((requireRobot m i).run w).world = (askForRobot m i w).world := by
  unfold requireRobot Interpreter.hasModule askForRobot
  cases h : ((i.runScript m ("import " ++ robotModule) []).run w).value with
  | error e =>
    simp [ExceptT.run_bind, ExceptT.run_adapt, Except.mapError, Except.map, h, robotFound]
  | ok output =>
    by_cases hsuccess : output.status.isSuccess = true
    · simp [ExceptT.run_bind, ExceptT.run_adapt, Except.mapError, Except.map, h, robotFound, hsuccess]
    · simp [ExceptT.run_bind, ExceptT.run_adapt, Except.mapError, Except.map, h, robotFound, hsuccess]

theorem requireRobot_matches (h : m.Matches S pythonPath n) (sees : i.Sees m.vars pythonPath) :
    Action.Matches S (requireRobot m i).run (requireRobot n i).run := by
  have hmodule : Action.Matches S (i.hasModule m robotModule).run (i.hasModule n robotModule).run :=
    (Interpreter.call_matches h sees _).run_bind fun _ => Action.Matches.pure _
  refine (hmodule.run_adapt _).run_bind fun found => ?_
  cases found with
  | false => exact Action.Matches.pure _
  | true => exact Action.Matches.pure _

theorem processor_matches (h : m.Matches S pythonPath n) (sees : i.Sees m.vars pythonPath)
    (cacheDir : Path) : (processor m i).Matches S cacheDir (processor n i) where
  files := h.files
  loader := Interpreter.loader_matches h sees
  generator r key := Interpreter.generator_matches h sees r key cacheDir

/-- The layout that is asked for. -/
def layout (a : Arguments) : Json.Layout := if a.pretty then .pretty else .compact

/-- What a run does once it has the description of the host. -/
def batchWith (m : Machine σ) (a : Arguments) (i : Interpreter) (environment : HostEnvironment) :
    ExceptT Failure (Action σ) String := do
  let (result, _) ← ExceptT.lift ((processor m i).runBatch environment a.cacheDir .empty
    (Reference.parseList a.libraries))
  let report ← ExceptT.mk (pure result)
  ExceptT.mk (pure (report.render (layout a)))

/-- What a run does once it has its interpreter. -/
def reportWith (m : Machine σ) (a : Arguments) (i : Interpreter) :
    ExceptT Failure (Action σ) String := do
  requireRobot m i
  let environment ← i.survey m
  batchWith m a i environment

/-- Where the calls of two machines match, so do their runs. -/
theorem reportWith_matches (h : m.Matches S pythonPath n) (sees : i.Sees m.vars pythonPath)
    (a : Arguments) (hmake : Action.Matches S (makeCacheDir a.cacheDir) (makeCacheDir a.cacheDir)) :
    Action.Matches S (reportWith m a i).run (reportWith n a i).run := by
  refine (requireRobot_matches h sees).run_bind fun _ => ?_
  refine (Interpreter.survey_matches h sees).run_bind fun environment => ?_
  refine ((processor_matches h sees _).runBatch hmake _ _ _).run_lift.run_bind fun done => ?_
  refine (Action.Matches.pure done.1).run_bind fun report => ?_
  exact Action.Matches.pure _

variable {a : Arguments} {w : World σ}

/-- The configuration file of a run: the one that is named, or else the one that is found. -/
def configFile? (home : Option Path) (a : Arguments) (fs : FileSystem) : Option Path :=
  match a.config with
  | some name => some (.ofString name)
  | none => discoverConfig? fs home fs.currentPath

/-- The configuration of a run, if it has one. -/
def configuration (home : Option Path) (a : Arguments) (fs : FileSystem) :
    Except Failure (Option Configuration) :=
  match configFile? home a fs with
  | some path => (Configuration.ofFile fs path).map some
  | none => .ok none

/-- The interpreter of a run, given its configuration. -/
def chosen (v : Variables) (a : Arguments) (file : Option Configuration) (fs : FileSystem) :
    Interpreter :=
  let settings := Settings.merge a.python (Text.entries a.searchPaths) file
  let name := Path.ofString settings.python
  ⟨(findExecutable? fs v name).getD name, settings.searchPaths⟩

theorem loadConfiguration_eq (home : Option Path) (a : Arguments) (w : World σ) :
    (loadConfiguration home (a.config.map Path.ofString) w).value = configuration home a w.files ∧
      (loadConfiguration home (a.config.map Path.ofString) w).world = w := by
  unfold loadConfiguration configuration configFile?
  cases a.config with
  | some name => exact ⟨rfl, rfl⟩
  | none =>
    simp only [Option.map_none, Action.value_bind, Action.world_bind, Action.value_files,
      Action.world_files]
    cases discoverConfig? w.files home w.files.currentPath with
    | none => exact ⟨rfl, rfl⟩
    | some path => exact ⟨rfl, rfl⟩

theorem interpreter_eq (m : Machine σ) (a : Arguments) (file : Option Configuration) (w : World σ) :
    let settings := Settings.merge a.python (Text.entries a.searchPaths) file
    (interpreter m settings w).value = chosen m.vars a file w.files ∧
      (interpreter m settings w).world = w := by
  intro settings
  simp only [interpreter, Interpreter.locate, Action.value_bind, Action.world_bind, Action.value_files,
    Action.world_files, chosen]
  cases findExecutable? w.files m.vars (.ofString settings.python) with
  | none => exact ⟨rfl, rfl⟩
  | some exe => exact ⟨rfl, rfl⟩

/-- A run loads its configuration, finds its interpreter and then works with it. -/
theorem run_report (m : Machine σ) (a : Arguments) :
    (report m a).run = loadConfiguration m.home (a.config.map Path.ofString) >>= fun
      | .error e => pure (.error e)
      | .ok file =>
        interpreter m (.merge a.python (Text.entries a.searchPaths) file) >>= fun i =>
          (reportWith m a i).run := by
  change (ExceptT.mk (loadConfiguration m.home (a.config.map Path.ofString)) >>= fun file =>
    ExceptT.lift (interpreter m (.merge a.python (Text.entries a.searchPaths) file)) >>=
      reportWith m a).run = _
  rw [ExceptT.run_bind, ExceptT.run_mk]
  refine bind_congr fun loaded => ?_
  cases loaded with
  | error e => rfl
  | ok file => simp only [ExceptT.run_bind, ExceptT.run_lift, bind_map_left]

/-- A run whose configuration can not be loaded ends there. -/
theorem report_of_not_loaded {e : Failure} (h : configuration m.home a w.files = .error e) :
    ((report m a).run w).value = .error e ∧ ((report m a).run w).world = w := by
  obtain ⟨hvalue, hworld⟩ := loadConfiguration_eq m.home a w
  rw [run_report, Action.value_bind, Action.world_bind, hvalue, hworld, h]
  exact ⟨rfl, rfl⟩

/-- A run goes on with its interpreter. Nothing was called or changed before. -/
theorem report_of_loaded {file : Option Configuration}
    (h : configuration m.home a w.files = .ok file) :
    let i := chosen m.vars a file w.files
    ((report m a).run w).value = ((reportWith m a i).run w).value ∧
      ((report m a).run w).world = ((reportWith m a i).run w).world := by
  obtain ⟨hvalue, hworld⟩ := loadConfiguration_eq m.home a w
  obtain ⟨hchosen, hworld'⟩ := interpreter_eq m a file w
  rw [run_report, Action.value_bind, Action.world_bind, hvalue, hworld, h]
  constructor
  · simp only [Action.value_bind, hchosen, hworld']
  · simp only [Action.world_bind, hchosen, hworld']

/-- How a run ends that was asked for a report. -/
theorem run_of_parsed {words : List Bytes} (h : Arguments.parse m.vars words = .ok a) :
    (run m words w).value =
        (match ((report m a).run w).value with
          | .ok text => ⟨0, text ++ "\n", none⟩
          | .error e => ⟨1, "", some e⟩) ∧
      (run m words w).world = ((report m a).run w).world := by
  simp only [run, h, Action.value_bind, Action.world_bind]
  cases ((report m a).run w).value with
  | ok text => exact ⟨rfl, rfl⟩
  | error e => exact ⟨rfl, rfl⟩

end Program

end KeywordDocs
