import KeywordDocs.Proofs.Endings
import KeywordDocs.Proofs.Paths

/-!
# The search path that calls see

The search paths of the configuration and of the command line are appended to the inherited `PYTHONPATH`
(`splitPathList_of_pythonPath`), once and for the whole run. A traced machine writes down the calls
of its programs, and `calls_see_merged_paths` says what value each call of a run sees.
-/

namespace KeywordDocs

variable {σ : Type}

/-! ### Traced machines -/

/-- The state of the programs outside, and the calls that they got, the first one first. -/
structure Traced (σ : Type) where
  state : σ
  invocations : List Invocation
  deriving DecidableEq

/-- The world as it is, with no calls so far. -/
def World.traced (w : World σ) : World (Traced σ) := ⟨w.files, w.clock, ⟨w.host, []⟩⟩

/-- The world without the calls that were written down. -/
def World.untraced (w : World (Traced σ)) : World σ := ⟨w.files, w.clock, w.host.state⟩

/-- The machine, with the calls of its programs written down. -/
def Machine.traced (m : Machine σ) : Machine (Traced σ) where
  vars := m.vars
  home := m.home
  execute call w :=
    let o := m.execute call w.untraced
    ⟨o.value, o.log, ⟨o.world.files, o.world.clock, ⟨o.world.host, w.host.invocations ++ [call]⟩⟩⟩

/-- The one world is the other, with calls written down. -/
def World.Traces (w : World (Traced σ)) (v : World σ) : Prop := w.untraced = v

/-- All calls that were written down saw this value of `PYTHONPATH`. -/
def World.AllSaw (pythonPath : Option Bytes) (w : World (Traced σ)) : Prop :=
  ∀ call ∈ w.host.invocations, call.pythonPath = pythonPath

theorem Machine.traced_matches (m : Machine σ) (pythonPath : Option Bytes) :
    m.traced.Matches World.Traces pythonPath m where
  vars := rfl
  files w _ h := congrArg World.files h
  execute arguments := by
    rintro w _ rfl
    exact ⟨rfl, rfl⟩

theorem Machine.traced_allSaw (m : Machine σ) (pythonPath : Option Bytes) :
    m.traced.Matches (Action.Both (World.AllSaw pythonPath)) pythonPath m.traced where
  vars := rfl
  files _ _ h := congrArg World.files h.1
  execute arguments := by
    refine Action.matches_both_iff.mpr fun w saw call hcall => ?_
    rcases List.mem_append.mp hcall with hbefore | hnew
    · exact saw call hbefore
    · rw [List.mem_singleton.mp hnew]

/-! ### The value of the variable -/

namespace Interpreter

variable {i : Interpreter} {v : Variables} {extra : List String}

/-- The paths that the interpreters of the machine look in. -/
def inheritedPaths (v : Variables) : List Bytes := ((v.get? "PYTHONPATH").map splitPathList).getD []

theorem mark_notMem_inheritedPaths {path : Bytes} (h : path ∈ inheritedPaths v) :
    pathListMark ∉ path := by
  unfold inheritedPaths at h
  cases hget : v.get? "PYTHONPATH" with
  | none =>
    rw [hget] at h
    cases h
  | some value =>
    rw [hget] at h
    exact Text.notMem_of_mem_split h

theorem mark_mem_encode_iff {s : String} : pathListMark ∈ Utf8.encode s ↔ ':' ∈ s.toList :=
  Utf8.mem_encode_iff (by decide) (by decide)

/-- Search paths with the mark of path lists in one of them can not be handed on. -/
theorem pythonPath_of_mark (hpaths : i.searchPaths = extra.map Path.ofString) {s : String}
    (hs : s ∈ extra) (hmark : ':' ∈ s.toList) :
    i.pythonPath v = .error ⟨.searchPath, [.separatorInPath]⟩ := by
  have hne : i.searchPaths ≠ [] := by
    rw [hpaths, Ne, List.map_eq_nil_iff]
    exact List.ne_nil_of_mem hs
  have hjoin : joinPathList? (inheritedPaths v ++ i.searchPaths.map (·.bytes)) = none := by
    rw [joinPathList?, if_pos]
    refine List.any_eq_true.mpr ⟨Utf8.encode s, List.mem_append_right _ ?_, ?_⟩
    · rw [hpaths, List.map_map]
      exact List.mem_map_of_mem hs
    · exact decide_eq_true (mark_mem_encode_iff.mpr hmark)
  rw [inheritedPaths] at hjoin
  simp only [pythonPath, if_neg hne, hjoin]

/-- Search paths without the mark of path lists come after the inherited ones. -/
theorem splitPathList_of_pythonPath (hpaths : i.searchPaths = extra.map Path.ofString)
    (hne : extra ≠ []) (hmark : ∀ s ∈ extra, ':' ∉ s.toList) :
    ∃ value, i.pythonPath v = .ok (some value) ∧
      splitPathList value = inheritedPaths v ++ extra.map Utf8.encode := by
  have hbytes : i.searchPaths.map (·.bytes) = extra.map Utf8.encode := by
    rw [hpaths, List.map_map]
    rfl
  have hunmarked : ∀ path ∈ inheritedPaths v ++ extra.map Utf8.encode, pathListMark ∉ path := by
    intro path hpath
    rcases List.mem_append.mp hpath with hpath | hpath
    · exact mark_notMem_inheritedPaths hpath
    · obtain ⟨s, hs, rfl⟩ := List.mem_map.mp hpath
      exact fun hmem => hmark s hs (mark_mem_encode_iff.mp hmem)
  refine ⟨Text.join pathListMark (inheritedPaths v ++ extra.map Utf8.encode), ?_, ?_⟩
  · have hsome : i.searchPaths ≠ [] := by
      rwa [hpaths, Ne, List.map_eq_nil_iff]
    have hjoin : joinPathList? (inheritedPaths v ++ i.searchPaths.map (·.bytes)) =
        some (Text.join pathListMark (inheritedPaths v ++ extra.map Utf8.encode)) := by
      rw [joinPathList?, hbytes, if_neg]
      rw [List.any_eq_true]
      rintro ⟨path, hpath, hmem⟩
      exact hunmarked path hpath (of_decide_eq_true hmem)
    rw [inheritedPaths] at hjoin
    simp only [pythonPath, if_neg hsome, hjoin]
    rfl
  · refine Text.split_join ?_ hunmarked
    rw [Ne, List.append_eq_nil_iff, List.map_eq_nil_iff]
    exact fun h => hne h.2

end Interpreter

namespace Program

variable {m : Machine σ} {a : Arguments} {file : Option Configuration} {w : World σ}

/-- A run that is traced ends as it does untraced, and leaves the same world. -/
theorem report_traced (loaded : configuration m.home a w.files = .ok file) :
    ((report m.traced a).run w.traced).value = ((report m a).run w).value ∧
      ((report m.traced a).run w.traced).world.untraced = ((report m a).run w).world := by
  have loaded' : configuration m.traced.home a w.traced.files = .ok file := loaded
  obtain ⟨hvalue, hworld⟩ := report_of_loaded loaded
  obtain ⟨hvalue', hworld'⟩ := report_of_loaded loaded'
  obtain ⟨pythonPath, sees⟩ := (chosen m.vars a file w.files).exists_sees m.vars
  have hmake : Action.Matches (World.Traces (σ := σ)) (makeCacheDir a.cacheDir)
      (makeCacheDir a.cacheDir) := by
    rintro v _ rfl
    exact ⟨rfl, rfl⟩
  rw [hvalue, hvalue', hworld, hworld']
  exact reportWith_matches (m.traced_matches pythonPath) sees a hmake w.traced w rfl

/-- All calls of a run see the value that its interpreter sees. -/
theorem allSaw_report {pythonPath : Option Bytes} (loaded : configuration m.home a w.files = .ok file)
    (sees : (chosen m.vars a file w.files).Sees m.vars pythonPath) :
    ((report m.traced a).run w.traced).world.AllSaw pythonPath := by
  have loaded' : configuration m.traced.home a w.traced.files = .ok file := loaded
  have hmake : Action.Keeps (World.AllSaw pythonPath) (makeCacheDir (σ := Traced σ) a.cacheDir) :=
    fun _ saw => saw
  have hkeeps := Action.matches_both_iff.mp (reportWith_matches (m.traced_allSaw pythonPath) sees a
    (Action.matches_both_iff.mpr hmake))
  rw [(report_of_loaded loaded').2]
  refine hkeeps w.traced fun call hcall => ?_
  cases hcall

/-- A run whose search paths can not be handed on calls nothing. -/
theorem report_of_unusable {e : Failure} (loaded : configuration m.home a w.files = .ok file)
    (h : (chosen m.vars a file w.files).pythonPath m.vars = .error e) :
    ((report m a).run w).value = .error (e.within .robotMissing) ∧ ((report m a).run w).world = w := by
  obtain ⟨hvalue, hworld⟩ := report_of_loaded loaded
  obtain ⟨hask, hask'⟩ : (askForRobot m (chosen m.vars a file w.files) w).value = .error e ∧
      (askForRobot m (chosen m.vars a file w.files) w).world = w := Interpreter.call_of_error h _ w
  obtain ⟨hrobot, hrobot'⟩ := requireRobot_eq m (chosen m.vars a file w.files) w
  rw [hask, robotFound] at hrobot
  rw [hask'] at hrobot'
  rw [hvalue, hworld, reportWith, (Action.run_bind_of_error hrobot).1,
    (Action.run_bind_of_error hrobot).2]
  exact ⟨rfl, hrobot'⟩

/-- **Every call of a run sees the same search path.** Without search paths of its own, a run leaves
`PYTHONPATH` as it is for all calls. Otherwise all calls see one value, and that is the inherited
list with the paths of the configuration and then those of the command line behind it. Where one of
them holds the mark of path lists, no call is made and nothing is changed, and the run fails. -/
theorem calls_see_merged_paths {words : List Bytes} (parsed : Arguments.parse m.vars words = .ok a)
    (loaded : configuration m.home a w.files = .ok file) :
    let extra := (file.getD .default).searchPaths ++ Text.entries a.searchPaths
    let inherited := m.vars.get? "PYTHONPATH"
    let o := run m.traced words w.traced
    (o.value = (run m words w).value ∧ o.world.untraced = (run m words w).world) ∧
    (extra = [] → ∀ call ∈ o.world.host.invocations, call.pythonPath = inherited) ∧
    (extra ≠ [] → (∀ s ∈ extra, ':' ∉ s.toList) →
      ∃ value, splitPathList value = (inherited.map splitPathList).getD [] ++ extra.map Utf8.encode ∧
        ∀ call ∈ o.world.host.invocations, call.pythonPath = some value) ∧
    ((∃ s ∈ extra, ':' ∈ s.toList) →
      o.world = w.traced ∧
        o.value = ⟨1, "", some ⟨.robotMissing, [.searchPath, .separatorInPath]⟩⟩) := by
  intro extra inherited o
  have parsed' : Arguments.parse m.traced.vars words = .ok a := parsed
  obtain ⟨hvalue, hworld⟩ := run_of_parsed (w := w) parsed
  obtain ⟨hvalue', hworld'⟩ := run_of_parsed (w := w.traced) parsed'
  have hpaths : (chosen m.vars a file w.files).searchPaths = extra.map Path.ofString := rfl
  refine ⟨?_, ?_, ?_, ?_⟩
  · obtain ⟨htraced, htraced'⟩ := report_traced loaded
    rw [hvalue, hworld]
    exact ⟨hvalue'.trans (by rw [htraced]), (congrArg World.untraced hworld').trans htraced'⟩
  · intro hnone
    have sees : (chosen m.vars a file w.files).Sees m.vars inherited := by
      intro own hown
      rw [Interpreter.pythonPath, hpaths, hnone, List.map_nil, if_pos rfl] at hown
      cases hown
      rfl
    change o.world.AllSaw inherited
    rw [show o.world = _ from hworld']
    exact allSaw_report loaded sees
  · intro hsome hmark
    obtain ⟨value, hown, hsplit⟩ :=
      Interpreter.splitPathList_of_pythonPath (v := m.vars) hpaths hsome hmark
    have sees : (chosen m.vars a file w.files).Sees m.vars (some value) := by
      intro own hown'
      rw [hown] at hown'
      cases hown'
      rfl
    refine ⟨value, hsplit, ?_⟩
    change o.world.AllSaw (some value)
    rw [show o.world = _ from hworld']
    exact allSaw_report loaded sees
  · rintro ⟨s, hs, hmark⟩
    have loaded' : configuration m.traced.home a w.traced.files = .ok file := loaded
    obtain ⟨hfailed, hsame⟩ :=
      report_of_unusable loaded' (Interpreter.pythonPath_of_mark hpaths hs hmark)
    exact ⟨hworld'.trans hsame, hvalue'.trans (by rw [hfailed]; rfl)⟩

end Program

namespace Searching

/-- A machine with search paths. -/
def machine : Machine Unit :=
  { Mixed.machine with
    vars := ⟨[("PATH", Utf8.encode "/bin"), ("PYTHONPATH", Utf8.encode "/a:/b")]⟩ }

/-- An interpreter, and a configuration with a search path. -/
def world : World Unit where
  files :=
    { entries :=
        [([Utf8.encode "bin"], .directory 0),
          ([Utf8.encode "bin", Utf8.encode "python3"],
            .file (FileSystem.nativeMark ++ List.replicate 12 0 ++ [2, 0]) 0o755 0),
          ([Utf8.encode "libdoc-cache.toml"],
            .file (Utf8.encode "[runtime]\nsearch_paths = [\"lib\"]\n") FileSystem.plainMode 0)]
      workingDirectory := []
      rootTime := 0
      readsAll := false }
  clock := 0
  host := ()

def words : List Bytes := ["foo, gone", "more, ", "cache"].map Utf8.encode

def arguments : Arguments := ⟨"foo, gone", "more, ", .ofString "cache", none, none, false⟩

theorem parsed : Arguments.parse machine.vars words = .ok arguments ∧
    Program.configuration machine.home arguments world.files = .ok (some ⟨"python3", ["lib"]⟩) := by
  decide +kernel

/-- The interpreter of the run. -/
def interpreter : Interpreter := ⟨.ofString "/bin/python3", ["lib", "more"].map Path.ofString⟩

/-- The interpreter is asked for Robot Framework, for the environment and for both libraries, and it
documents the one that it knows. -/
theorem called :
    (Program.run machine.traced words world.traced).world.host.invocations.map
      (fun call => (call.arguments.head?, call.arguments.length)) =
        [(some (Utf8.encode "-c"), 2), (some (Utf8.encode "-c"), 2), (some (Utf8.encode "-c"), 5),
          (some (Utf8.encode "-m"), 6), (some (Utf8.encode "-c"), 5)] := by
  have hhost : Program.host machine.traced arguments world.traced = interpreter := by decide +kernel
  have hcalls : Program.DirectoryMade machine.traced arguments world.traced ∧
      (Program.robotCall machine.traced arguments world.traced).value =
        .ok ⟨.code 0, Utf8.encode Mixed.facts, []⟩ ∧
      (Program.environmentCall machine.traced arguments world.traced).value =
        .ok ⟨.code 0, Utf8.encode Mixed.facts, []⟩ := by
    simp only [Program.DirectoryMade, Program.environmentCall, Program.robotCall, hhost]
    decide +kernel
  have hparsed : Arguments.parse machine.traced.vars words = .ok arguments := parsed.1
  have hconfigured : Program.Configured machine.traced arguments world.traced :=
    Program.configured_iff.mpr ⟨_, parsed.2⟩
  rw [(Program.run_of_parsed hparsed).2, Program.world_report_of_made hconfigured
    ⟨_, hcalls.2.1, rfl⟩ ⟨_, _, hcalls.2.2, rfl, Mixed.asked.2.2.1⟩ hcalls.1]
  simp only [Program.processed, Program.environmentCall, Program.robotCall, hhost, Program.processor,
    Interpreter.loader, Interpreter.probe, Interpreter.runScript, encode_probeScript]
  decide +kernel

end Searching

/-- One search path from the configuration and one from the command line, behind two inherited ones, in
a run that makes all kinds of calls. -/
theorem Program.calls_see_merged_paths_sample :
    Arguments.parse Searching.machine.vars Searching.words = .ok Searching.arguments ∧
    Program.configuration Searching.machine.home Searching.arguments Searching.world.files =
      .ok (some ⟨"python3", ["lib"]⟩) ∧
    (Program.run Searching.machine.traced Searching.words
      Searching.world.traced).world.host.invocations.map
        (fun call => (call.arguments.head?, call.arguments.length)) =
      [(some (Utf8.encode "-c"), 2), (some (Utf8.encode "-c"), 2), (some (Utf8.encode "-c"), 5),
        (some (Utf8.encode "-m"), 6), (some (Utf8.encode "-c"), 5)] ∧
    ∃ value, splitPathList value = ["/a", "/b", "lib", "more"].map Utf8.encode ∧
      ∀ call ∈ (Program.run Searching.machine.traced Searching.words
        Searching.world.traced).world.host.invocations, call.pythonPath = some value := by
  have hpaths : ["lib"] ++ Text.entries Searching.arguments.searchPaths = ["lib", "more"] ∧
      ((Searching.machine.vars.get? "PYTHONPATH").map splitPathList).getD [] =
        ["/a", "/b"].map Utf8.encode := by
    decide +kernel
  have seen := (Program.calls_see_merged_paths Searching.parsed.1 Searching.parsed.2).2.2.1
  simp only [Option.getD_some, hpaths] at seen
  obtain ⟨value, hsplit, hcalls⟩ := seen (List.cons_ne_nil _ _) (by decide)
  exact ⟨Searching.parsed.1, Searching.parsed.2, Searching.called, value, hsplit, hcalls⟩

end KeywordDocs
