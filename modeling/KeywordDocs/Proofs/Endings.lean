import KeywordDocs.Proofs.Invocations
import KeywordDocs.Proofs.Records

/-!
# How a run ends

A run that was asked for a report prints it and ends with 0, or prints nothing and ends with 1. It
needs five things for a report: a configuration file that can be read, if there is one
(`Configured`), an interpreter with Robot Framework (`RobotFound`) that describes itself
(`Described`), a cache directory that can be made (`DirectoryMade`), and records whose paths are
text (`PathsText`). `ending_of_run` says that these are all, whatever the interpreter does when it
is called later, and that a run that lacks one of the first three leaves no trace but those of the
calls it made.
-/

namespace KeywordDocs

variable {σ : Type}

/-! ### The question for the environment -/

namespace Interpreter

/-- The call that asks for the environment. -/
def askForEnvironment (i : Interpreter) (m : Machine σ) : Action σ (Except Failure Output) :=
  (i.runScript m environmentScript []).run

/-- The description of the host by what its interpreter tells of itself. -/
def describe (i : Interpreter) (v : Variables) (facts : InterpreterFacts) : HostEnvironment :=
  .ofFacts v { facts with
    executable := if facts.executable = "" then i.executable.display else facts.executable }

variable {i : Interpreter} {m : Machine σ} {w : World σ}

/-- Describing the host takes one call. It fails unless that call ends with success and with the facts in
the last line. -/
theorem survey_eq (i : Interpreter) (m : Machine σ) (w : World σ) :
    ((i.survey m).run w).world = (i.askForEnvironment m w).world ∧
      ∀ environment, ((i.survey m).run w).value = .ok environment ↔
        ∃ output facts, (i.askForEnvironment m w).value = .ok output ∧
          output.status.isSuccess = true ∧
          Json.readLastLine? InterpreterFacts.ofTerm? output.stdoutText = some facts ∧
          environment = i.describe m.vars facts := by
  unfold survey askForEnvironment
  cases h : ((i.runScript m environmentScript []).run w).value with
  | error e => simp [ExceptT.run_bind, ExceptT.run_adapt, Except.mapError, h]
  | ok output =>
    by_cases hsuccess : output.status.isSuccess = true
    · cases hfacts : Json.readLastLine? InterpreterFacts.ofTerm? output.stdoutText with
      | none => simp [ExceptT.run_bind, ExceptT.run_adapt, Except.mapError, h, hsuccess, hfacts]
      | some facts =>
        simp only [ExceptT.run_bind, ExceptT.run_adapt, Except.mapError, Action.value_bind,
          Action.world_bind, Action.value_map, Action.world_map, h, hsuccess, hfacts, not_true_eq_false,
          if_false]
        refine ⟨rfl, fun environment => ⟨fun hvalue => ?_, ?_⟩⟩
        · exact ⟨output, facts, rfl, hsuccess, hfacts, (Except.ok.inj hvalue).symm⟩
        · rintro ⟨_, facts', ⟨⟩, _, hfacts', rfl⟩
          rw [hfacts] at hfacts'
          cases hfacts'
          rfl
    · simp [ExceptT.run_bind, ExceptT.run_adapt, Except.mapError, h, hsuccess]

end Interpreter

/-! ### What a run needs -/

namespace Program

section Needs

variable (m : Machine σ) (a : Arguments) (w : World σ)

/-- The interpreter of a run: by the default configuration where none can be loaded. -/
def host : Interpreter := chosen m.vars a (configuration m.home a w.files).toOption.join w.files

/-- The first call of a run. -/
def robotCall : Outcome σ (Except Failure Output) := askForRobot m (host m a w) w

/-- The second call of a run. -/
def environmentCall : Outcome σ (Except Failure Output) :=
  (host m a w).askForEnvironment m (robotCall m a w).world

/-- The libraries of a run are processed after two calls and in a new cache directory. -/
def processed : Outcome σ (List LibraryRecord × Registry) :=
  (processor m (host m a w)).processEach a.cacheDir .empty (Reference.parseList a.libraries)
    (makeCacheDir a.cacheDir (environmentCall m a w).world).world

/-- The records of a run. -/
def catalog : Catalog := Catalog.empty.insertAll (processed m a w).value.1

/-- The configuration file can be read and parsed, if there is one. -/
def Configured : Prop :=
  ∀ path, configFile? m.home a w.files = some path →
    ∃ text c, w.files.readText path = .ok text ∧ Configuration.ofText? text = some c

/-- The interpreter can be run and imports Robot Framework. -/
def RobotFound : Prop :=
  ∃ output, (robotCall m a w).value = .ok output ∧ output.status.isSuccess = true

/-- The interpreter can be run and describes itself in the last line it prints. -/
def Described : Prop :=
  ∃ output facts, (environmentCall m a w).value = .ok output ∧ output.status.isSuccess = true ∧
    Json.readLastLine? InterpreterFacts.ofTerm? output.stdoutText = some facts

/-- The cache directory can be made. -/
def DirectoryMade : Prop :=
  ((environmentCall m a w).world.files.makeDirectories (environmentCall m a w).world.clock
    a.cacheDir).1 = .ok ()

/-- All paths of the records are text. -/
def PathsText : Prop := ∀ r ∈ (catalog m a w).records, ∀ p ∈ r.paths, ∃ s, p = .ofString s

/-- The report of a run as JSON, its paths being text, when the interpreter tells these facts of
itself. -/
def reported (facts : InterpreterFacts) : Json :=
  .object [("libraries", .object (catalog m a w).members),
    ("environment", .object ((host m a w).describe m.vars facts).members)]

end Needs

variable {m : Machine σ} {a : Arguments} {w : World σ}

theorem configured_iff : Configured m a w ↔ ∃ file, configuration m.home a w.files = .ok file := by
  unfold Configured configuration
  cases configFile? m.home a w.files with
  | none => simp
  | some path =>
    simp only [Option.some.injEq, forall_eq', Configuration.ofFile]
    cases w.files.readText path with
    | error e => simp [Except.map]
    | ok text =>
      cases hread : Configuration.ofText? text with
      | none => simp [Except.map, hread]
      | some c => simp [Except.map, hread]

theorem host_of_loaded {file : Option Configuration} (h : configuration m.home a w.files = .ok file) :
    host m a w = chosen m.vars a file w.files := by
  rw [host, h]
  rfl

theorem world_requireRobot (m : Machine σ) (a : Arguments) (w : World σ) :
    ((requireRobot m (host m a w)).run w).world = (robotCall m a w).world :=
  (requireRobot_eq m (host m a w) w).2

theorem requireRobot_eq_ok_iff {i : Interpreter} :
    ((requireRobot m i).run w).value = .ok () ↔
      ∃ output, (askForRobot m i w).value = .ok output ∧ output.status.isSuccess = true := by
  rw [(requireRobot_eq m i w).1]
  cases (askForRobot m i w).value with
  | error e => simp [robotFound]
  | ok output => simp [robotFound]

/-- What a run does with the description of the host is a batch, and then the report in writing. -/
theorem batchWith_eq (m : Machine σ) (a : Arguments) (i : Interpreter) (environment : HostEnvironment)
    (w : World σ) :
    let batch := (processor m i).runBatch environment a.cacheDir .empty
      (Reference.parseList a.libraries) w
    ((batchWith m a i environment).run w).value = batch.value.1.bind (·.render (layout a)) ∧
      ((batchWith m a i environment).run w).world = batch.world := by
  intro batch
  simp only [batchWith, ExceptT.run_bind, ExceptT.run_lift, Action.value_bind, Action.world_bind,
    Action.value_map, Action.world_map]
  cases batch.value.1 with
  | error e => exact ⟨rfl, rfl⟩
  | ok report => exact ⟨rfl, rfl⟩

theorem value_makeCacheDir {cacheDir : Path}
    (h : (w.files.makeDirectories w.clock cacheDir).1 = .ok ()) :
    (makeCacheDir cacheDir w).value = .ok () := by
  rw [(makeCacheDir_outcome cacheDir w).1, h]
  rfl

theorem batchWith_eq_ok_iff {i : Interpreter} {environment : HostEnvironment} {text : String} :
    ((batchWith m a i environment).run w).value = .ok text ↔
      (w.files.makeDirectories w.clock a.cacheDir).1 = .ok () ∧
        (Report.mk (Catalog.empty.insertAll ((processor m i).processEach a.cacheDir .empty
          (Reference.parseList a.libraries) (makeCacheDir a.cacheDir w).world).value.1)
          environment).render (layout a) = .ok text := by
  rw [(batchWith_eq m a i environment w).1]
  cases hmake : (w.files.makeDirectories w.clock a.cacheDir).1 with
  | error e =>
    have hmade : (makeCacheDir a.cacheDir w).value = .error ⟨.createCacheDir a.cacheDir, [.os e]⟩ := by
      rw [(makeCacheDir_outcome a.cacheDir w).1, hmake]
      rfl
    rw [(Processor.runBatch_of_error hmade).1]
    simp [Except.bind]
  | ok made =>
    rw [(Processor.runBatch_of_made (value_makeCacheDir hmake)).1]
    simp [Except.bind]

/-- A run has its report in writing when it has all that it needs. -/
theorem report_eq_ok_iff {text : String} :
    ((report m a).run w).value = .ok text ↔
      Configured m a w ∧ RobotFound m a w ∧ DirectoryMade m a w ∧ PathsText m a w ∧
        ∃ output facts, (environmentCall m a w).value = .ok output ∧ output.status.isSuccess = true ∧
          Json.readLastLine? InterpreterFacts.ofTerm? output.stdoutText = some facts ∧
          text = String.ofList ((reported m a w facts).render (layout a) 0) := by
  cases hload : configuration m.home a w.files with
  | error e =>
    have hnot : ¬ Configured m a w := by
      rw [configured_iff, hload]
      rintro ⟨file, h⟩
      cases h
    rw [(report_of_not_loaded hload).1]
    exact iff_of_false (fun h => by cases h) fun h => hnot h.1
  | ok file =>
    have hconfigured : Configured m a w := configured_iff.mpr ⟨file, hload⟩
    obtain ⟨hsurvey, hdescribed⟩ := (host m a w).survey_eq m (robotCall m a w).world
    rw [(report_of_loaded hload).1, ← host_of_loaded hload, reportWith, Action.run_bind_eq_ok_iff,
      world_requireRobot]
    simp only [Action.run_bind_eq_ok_iff, hdescribed, hsurvey, batchWith_eq_ok_iff]
    constructor
    · rintro ⟨_, hfound, _, ⟨output, facts, houtput, hsuccess, hfacts, rfl⟩, hmade, hrender⟩
      obtain ⟨htexts, htext⟩ := Report.render_eq_ok_iff.mp hrender
      exact ⟨hconfigured, requireRobot_eq_ok_iff.mp hfound, hmade, htexts, output, facts, houtput,
        hsuccess, hfacts, htext⟩
    · rintro ⟨_, hfound, hmade, htexts, output, facts, houtput, hsuccess, hfacts, htext⟩
      exact ⟨(), requireRobot_eq_ok_iff.mpr hfound, _,
        ⟨output, facts, houtput, hsuccess, hfacts, rfl⟩, hmade,
        Report.render_eq_ok_iff.mpr ⟨htexts, htext⟩⟩

/-- A run that lacks none of the first four things leaves what its libraries leave. -/
theorem world_report_of_made (hconfigured : Configured m a w) (hrobot : RobotFound m a w)
    (hdescribed : Described m a w) (hmade : DirectoryMade m a w) :
    ((report m a).run w).world = (processed m a w).world := by
  obtain ⟨file, hload⟩ := configured_iff.mp hconfigured
  obtain ⟨output, facts, houtput, hsuccess, hfacts⟩ := hdescribed
  obtain ⟨hsurvey, hsurveyed⟩ := (host m a w).survey_eq m (robotCall m a w).world
  have henvironment := (hsurveyed _).mpr ⟨output, facts, houtput, hsuccess, hfacts, rfl⟩
  rw [(report_of_loaded hload).2, ← host_of_loaded hload, reportWith,
    (Action.run_bind_of_ok (requireRobot_eq_ok_iff.mpr hrobot)).2, world_requireRobot,
    (Action.run_bind_of_ok henvironment).2, hsurvey, (batchWith_eq m a _ _ _).2]
  exact (Processor.runBatch_of_made (value_makeCacheDir hmade)).2

/-- A run that lacks one of the first three things leaves what the calls that it made leave. -/
theorem world_report_of_not_started (h : ¬ (Configured m a w ∧ RobotFound m a w ∧ Described m a w))
    {I : World σ → Prop} (keeps : ∀ call, Action.Keeps I (m.execute call)) (hw : I w) :
    I ((report m a).run w).world := by
  cases hload : configuration m.home a w.files with
  | error e =>
    rw [(report_of_not_loaded hload).2]
    exact hw
  | ok file =>
    have hconfigured : Configured m a w := configured_iff.mpr ⟨file, hload⟩
    have hfirst : I (robotCall m a w).world := Interpreter.call_keeps keeps _ _ w hw
    have hsecond : I (environmentCall m a w).world := Interpreter.call_keeps keeps _ _ _ hfirst
    obtain ⟨hsurvey, hdescribed⟩ := (host m a w).survey_eq m (robotCall m a w).world
    rw [(report_of_loaded hload).2, ← host_of_loaded hload, reportWith]
    cases hfound : ((requireRobot m (host m a w)).run w).value with
    | error e =>
      rw [(Action.run_bind_of_error hfound).2, world_requireRobot]
      exact hfirst
    | ok found =>
      cases henvironment : (((host m a w).survey m).run (robotCall m a w).world).value with
      | error e =>
        rw [(Action.run_bind_of_ok hfound).2, world_requireRobot,
          (Action.run_bind_of_error henvironment).2, hsurvey]
        exact hsecond
      | ok environment =>
        obtain ⟨output, facts, houtput, hsuccess, hfacts, _⟩ := (hdescribed environment).mp henvironment
        exact absurd ⟨hconfigured, requireRobot_eq_ok_iff.mp hfound, output, facts, houtput, hsuccess,
          hfacts⟩ h

/-- What is written of a report is read as its value. -/
theorem ofString?_reported (m : Machine σ) (a : Arguments) (w : World σ) (facts : InterpreterFacts)
    (layout : Json.Layout) :
    Json.ofString? (String.ofList ((reported m a w facts).render layout 0)) =
      some (reported m a w facts).sorted :=
  Json.ofString?_render
    (Report.plain_json ⟨catalog m a w, (host m a w).describe m.vars facts⟩) layout

/-- **A run prints its report and ends with 0, or prints nothing and ends with 1.** Let the
arguments ask for a report. Then the run ends with 0 exactly when its configuration file, if there
is one, can be read and parsed, the interpreter can be called and has Robot Framework, it can be
called again and describes itself in the last line it prints, the cache directory can be made, and
all paths of the records are text. Then it prints one JSON value in the layout that is asked for, and
a line break: the records of the libraries under their keys, and the description of the host. Read
again, the text is that value with its members in order. In all other cases the run prints nothing and
ends with 1, and when one of the first three things is missing, nothing has changed that calls of the
interpreter do not change. -/
theorem ending_of_run {words : List Bytes} (parsed : Arguments.parse m.vars words = .ok a) :
    let o := run m words w
    let early := Configured m a w ∧ RobotFound m a w ∧ Described m a w
    let late := DirectoryMade m a w ∧ PathsText m a w
    (o.value.code = 0 ↔ early ∧ late) ∧
    (early ∧ late → ∃ output facts, (environmentCall m a w).value = .ok output ∧
      Json.readLastLine? InterpreterFacts.ofTerm? output.stdoutText = some facts ∧
      let text := String.ofList ((reported m a w facts).render (layout a) 0)
      o.value = ⟨0, text ++ "\n", none⟩ ∧ Json.ofString? text = some (reported m a w facts).sorted) ∧
    (¬ (early ∧ late) → ∃ e, o.value = ⟨1, "", some e⟩) ∧
    (¬ early → ∀ I : World σ → Prop, (∀ call, Action.Keeps I (m.execute call)) → I w → I o.world) := by
  intro o early late
  obtain ⟨hvalue, hworld⟩ := run_of_parsed (w := w) parsed
  have hprints : early ∧ late → ∃ output facts, (environmentCall m a w).value = .ok output ∧
      Json.readLastLine? InterpreterFacts.ofTerm? output.stdoutText = some facts ∧
      o.value = ⟨0, String.ofList ((reported m a w facts).render (layout a) 0) ++ "\n", none⟩ := by
    rintro ⟨⟨hconfigured, hrobot, output, facts, houtput, hsuccess, hfacts⟩, hmade, htexts⟩
    have hreport := report_eq_ok_iff.mpr
      ⟨hconfigured, hrobot, hmade, htexts, output, facts, houtput, hsuccess, hfacts, rfl⟩
    exact ⟨output, facts, houtput, hfacts, hvalue.trans (by rw [hreport])⟩
  have hfails : ¬ (early ∧ late) → ∃ e, o.value = ⟨1, "", some e⟩ := by
    intro hnot
    cases hreport : ((report m a).run w).value with
    | error e => exact ⟨e, hvalue.trans (by rw [hreport])⟩
    | ok text =>
      obtain ⟨hconfigured, hrobot, hmade, htexts, output, facts, houtput, hsuccess, hfacts, _⟩ :=
        report_eq_ok_iff.mp hreport
      exact absurd ⟨⟨hconfigured, hrobot, output, facts, houtput, hsuccess, hfacts⟩, hmade, htexts⟩ hnot
  refine ⟨⟨fun hcode => ?_, fun hall => ?_⟩, fun hall => ?_, hfails, fun hearly I keeps hw => ?_⟩
  · by_contra hnot
    obtain ⟨e, he⟩ := hfails hnot
    rw [he] at hcode
    cases hcode
  · obtain ⟨_, _, _, _, ho⟩ := hprints hall
    rw [ho]
  · obtain ⟨output, facts, houtput, hfacts, ho⟩ := hprints hall
    exact ⟨output, facts, houtput, hfacts, ho, ofString?_reported m a w facts _⟩
  · rw [show o.world = _ from hworld]
    exact world_report_of_not_started hearly keeps hw

end Program

namespace Mixed

/-- What an interpreter tells of itself. -/
def facts : String :=
  "\x7b\"version\":\"3\",\"executable\":\"\",\"platform\":\"linux\",\"path\":[\"/a\"]\x7d\n"

/-- A machine whose interpreter answers the first two calls of a run. Of modules it knows `foo` and
`bar`, it is killed while it looks for `boom`, and it writes the libdoc of `foo` only. -/
def machine : Machine Unit where
  vars := ⟨[("PATH", Utf8.encode "/bin")]⟩
  home := none
  execute call :=
    match call.arguments with
    | [_, _, _, target, _] =>
      if target = Utf8.encode "boom" then pure ⟨.signal 9, Utf8.encode "\x7b", []⟩
      else
        let known := target = Utf8.encode "foo" ∨ target = Utf8.encode "bar"
        pure ⟨.code 0, Utf8.encode (if known then "\x7b\"ok\":true\x7d" else "\x7b\"ok\":false\x7d"), []⟩
    | [_, _, _, _, name, path] =>
      if name = Utf8.encode "foo" then do
        let _ ← Action.updateFiles fun now fs => fs.writeWithParents now ⟨path⟩ [] now
        pure ⟨.code 0, [], []⟩
      else pure ⟨.code 1, [], []⟩
    | _ => pure ⟨.code 0, Utf8.encode facts, []⟩

/-- An interpreter, and a file that nobody may read. -/
def world : World Unit where
  files :=
    { entries :=
        [([Utf8.encode "bin"], .directory 0),
          ([Utf8.encode "bin", Utf8.encode "python3"],
            .file (FileSystem.nativeMark ++ List.replicate 12 0 ++ [2, 0]) 0o755 0),
          ([Utf8.encode "locked.toml"], .file [] 0 0)]
      workingDirectory := []
      rootTime := 0
      readsAll := false }
  clock := 100
  host := ()

def words : List Bytes := ["foo,gone,bar,boom", "", "cache"].map Utf8.encode

def arguments : Arguments := ⟨"foo,gone,bar,boom", "", .ofString "cache", none, none, false⟩

/-- The same run with a configuration file that can not be read. -/
def lockedWords : List Bytes :=
  ["foo,gone,bar,boom", "", "cache", "--config", "locked.toml"].map Utf8.encode

def lockedArguments : Arguments := { arguments with config := some "locked.toml" }

theorem parsed : Arguments.parse machine.vars words = .ok arguments ∧
    Arguments.parse machine.vars lockedWords = .ok lockedArguments := by
  decide +kernel

theorem configured : Program.Configured machine arguments world ∧
    ¬ Program.Configured machine lockedArguments world := by
  have hfiles : Program.configFile? machine.home arguments world.files = none ∧
      world.files.readText (.ofString "locked.toml") = .error .permissionDenied := by
    decide +kernel
  refine ⟨fun path hpath => ?_, fun h => ?_⟩
  · rw [hfiles.1] at hpath
    cases hpath
  · obtain ⟨text, _, htext, _⟩ := h (.ofString "locked.toml") rfl
    rw [hfiles.2] at htext
    cases htext

/-- The facts in the answers to the first calls. -/
def told : InterpreterFacts := ⟨"3", "", "linux", ["/a"]⟩

/-- The first two calls are answered, and the cache directory can be made. -/
theorem asked :
    let answer : Output := ⟨.code 0, Utf8.encode facts, []⟩
    (Program.robotCall machine arguments world).value = .ok answer ∧
      (Program.environmentCall machine arguments world).value = .ok answer ∧
      Json.readLastLine? InterpreterFacts.ofTerm? answer.stdoutText = some told ∧
      Program.DirectoryMade machine arguments world := by
  unfold Program.DirectoryMade
  decide +kernel

/-- One library succeeds. The others fail: one is not found, one has no libdoc, and one has the
interpreter killed. All paths of the records are text. -/
theorem finished :
    (Program.catalog machine arguments world).records.map (fun r => (r.libraryKey, r.status)) =
      [("foo", .success), ("gone", .error), ("bar", .error), ("boom", .error)] ∧
    ∀ r ∈ (Program.catalog machine arguments world).records, ∀ p ∈ r.paths,
      p.text?.isSome = true := by
  simp only [Program.catalog, Program.processed, Program.processor, Interpreter.loader,
    Interpreter.probe, Interpreter.runScript, encode_probeScript]
  decide +kernel

theorem needs :
    (Program.Configured machine arguments world ∧ Program.RobotFound machine arguments world ∧
      Program.Described machine arguments world) ∧
    Program.DirectoryMade machine arguments world ∧ Program.PathsText machine arguments world := by
  obtain ⟨hrobot, hcall, hfacts, hmade⟩ := asked
  refine ⟨⟨configured.1, ⟨_, hrobot, rfl⟩, _, _, hcall, rfl, hfacts⟩, hmade, fun r hr p hp => ?_⟩
  obtain ⟨s, hs⟩ := Option.isSome_iff_exists.mp (finished.2 r hr p hp)
  exact ⟨s, Path.text?_eq_some_iff.mp hs⟩

end Mixed

/-- A report on four libraries, of which one succeeds, and a run that is not allowed to read its
configuration. -/
theorem Program.ending_of_run_sample :
    Arguments.parse Mixed.machine.vars Mixed.words = .ok Mixed.arguments ∧
    (Program.catalog Mixed.machine Mixed.arguments Mixed.world).records.map
      (fun r => (r.libraryKey, r.status)) =
        [("foo", .success), ("gone", .error), ("bar", .error), ("boom", .error)] ∧
    (Program.run Mixed.machine Mixed.words Mixed.world).value =
      ⟨0, String.ofList ((Program.reported Mixed.machine Mixed.arguments Mixed.world
        Mixed.told).render .compact 0) ++ "\n", none⟩ ∧
    ∃ e, (Program.run Mixed.machine Mixed.lockedWords Mixed.world).value = ⟨1, "", some e⟩ := by
  obtain ⟨_, hcall, hread, _⟩ := Mixed.asked
  obtain ⟨output, facts, houtput, hfacts, hvalue, _⟩ :=
    (Program.ending_of_run Mixed.parsed.1).2.1 Mixed.needs
  rw [hcall] at houtput
  cases houtput
  rw [hread] at hfacts
  cases hfacts
  exact ⟨Mixed.parsed.1, Mixed.finished.1, hvalue,
    (Program.ending_of_run Mixed.parsed.2).2.2.1 fun h => Mixed.configured.2 h.1.1⟩

end KeywordDocs
