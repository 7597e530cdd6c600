import KeywordDocs.Host.Libdoc
import KeywordDocs.Proofs.Freshness
import KeywordDocs.Proofs.Processing

/-!
# Libdocs that the interpreter generates

The libdoc tool is believed when it ends with success and there is something at the path of the
libdoc (`Interpreter.generator_eq_ok`). Where the tool writes the file that is enough: after
a success the libdoc can be reused. Where it does not, a libdoc that was too old before is too old
still, and is reported as generated all the same. `success_reusable_iff` says that this is the only
exception.
-/

namespace KeywordDocs

variable {σ : Type}

/-! ### What the tool was called with -/

theorem Machine.run_eq_ok {m : Machine σ} {c : Command} {w : World σ} {output : Output}
    (h : (m.run c w).value = .ok output) :
    ∃ call : Invocation, c.arguments <:+ call.arguments ∧ (m.execute call w).value = output ∧
      (m.run c w).world = (m.execute call w).world := by
  by_cases hzero : (c.executable.bytes :: c.arguments ++ c.pythonPath.toList).any
      ((0 : UInt8) ∈ ·) = true
  · simp only [Machine.run, if_pos hzero] at h
    cases h
  · cases hstart : w.files.startProgram m.vars c.executable with
    | error e =>
      simp only [Machine.run, if_neg hzero, Action.value_bind, Action.value_files,
        Action.world_files, hstart] at h
      cases h
    | ok before =>
      by_cases hlong : ((before ++ c.arguments) ++ (c.pythonPath <|>
          m.vars.get? "PYTHONPATH").toList.map pythonPathSetting).any
          (Command.maxWord < ·.length) = true
      · simp only [Machine.run, if_neg hzero, Action.value_bind, Action.value_files,
          Action.world_files, hstart, if_pos hlong] at h
        cases h
      · simp only [Machine.run, if_neg hzero, Action.value_bind, Action.value_files,
          Action.world_files, Action.world_bind, hstart, if_neg hlong] at h ⊢
        refine ⟨_, List.suffix_append before c.arguments, ?_, rfl⟩
        exact Except.ok.inj h

namespace Interpreter

variable {i : Interpreter} {m : Machine σ} {w : World σ}

theorem call_eq_ok {arguments : List Bytes} {output : Output}
    (h : ((i.call m arguments).run w).value = .ok output) :
    ∃ invocation : Invocation, arguments <:+ invocation.arguments ∧
      (m.execute invocation w).value = output ∧
      ((i.call m arguments).run w).world = (m.execute invocation w).world := by
  cases hpath : i.pythonPath m.vars with
  | error e => simp [call, call.liftExcept, hpath] at h
  | ok pythonPath =>
    cases hrun : (m.run ⟨i.executable, arguments, pythonPath⟩ w).value with
    | error e => simp [call, call.liftExcept, hpath, hrun, Action.note, ExceptT.run_bind] at h
    | ok output' =>
      have hcall : ((i.call m arguments).run w).value = .ok output' ∧
          ((i.call m arguments).run w).world =
            (m.run ⟨i.executable, arguments, pythonPath⟩ w).world := by
        simp [call, call.liftExcept, hpath, hrun, Action.note, ExceptT.run_bind]
      rw [hcall.1] at h
      cases h
      rw [hcall.2]
      exact Machine.run_eq_ok hrun

/-- A libdoc that was generated is at its path, and was left there by a call of the tool with that
path for its last argument. -/
theorem generator_eq_ok {r : Reference} {key : String} {cacheDir path : Path}
    (h : ((i.generator m r key cacheDir).run w).value = .ok path) :
    path = artifactPath cacheDir key ∧
      ((i.generator m r key cacheDir).run w).world.files.pathExists path = true ∧
      ∃ invocation : Invocation, invocation.arguments.getLast? = some path.bytes ∧
        ((i.generator m r key cacheDir).run w).world = (m.execute invocation w).world := by
  cases hrun : ((i.runModule m libdocModule [Utf8.encode "--format", Utf8.encode "XML",
      Utf8.encode r.raw, (artifactPath cacheDir key).bytes]).run w).value with
  | error e => simp [generator, ExceptT.run_bind, ExceptT.run_adapt, Except.mapError, hrun] at h
  | ok output =>
    obtain ⟨invocation, ⟨before, hbefore⟩, _, hworld⟩ := call_eq_ok hrun
    have hlast : invocation.arguments.getLast? = some (artifactPath cacheDir key).bytes := by
      rw [← hbefore, List.getLast?_append]
      rfl
    change ((i.runModule m libdocModule _).run w).world = _ at hworld
    by_cases hstatus : output.status.isSuccess = true
    · by_cases hexists : (m.execute invocation w).world.files.pathExists
          (artifactPath cacheDir key) = true
      · have hdone : ((i.generator m r key cacheDir).run w).value =
              .ok (artifactPath cacheDir key) ∧
            ((i.generator m r key cacheDir).run w).world = (m.execute invocation w).world := by
          simp [generator, ExceptT.run_bind, ExceptT.run_adapt, Except.mapError, Except.map,
            Action.note, hrun, hworld, hstatus, hexists]
        rw [hdone.1] at h
        cases h
        rw [hdone.2]
        exact ⟨rfl, hexists, invocation, hlast, rfl⟩
      · simp [generator, ExceptT.run_bind, ExceptT.run_adapt, Except.mapError, hrun, hworld, hstatus,
          hexists] at h
    · simp [generator, ExceptT.run_bind, ExceptT.run_adapt, Except.mapError, hrun, hstatus] at h

end Interpreter

/-! ### What a success stands for -/

/-- **A success stands for a libdoc that can be reused, unless a stale one was left as it was.** Let the
libdoc tool, when it is called for a library, leave all files alone or write the libdoc. After a success
there is something at the path in the record. It can be reused exactly when it is not the case that
the libdoc was too old before and the files are as they were. -/
theorem success_reusable_iff {loader : ModuleLoader σ} {i : Interpreter} {machine : Machine σ}
    {cacheDir : Path} {registry : Registry} {r : Reference} {w : World σ}
    (engine : ∀ m, (loader.resolve registry r w).value.1 = .ok m → ∀ invocation : Invocation,
      invocation.arguments.getLast? = some (artifactPath cacheDir r.cacheKey).bytes →
      let before := (loader.resolve registry r w).world
      let after := (machine.execute invocation before).world
      after.files = before.files ∨
        FileSystem.Renewed (artifactPath cacheDir r.cacheKey) m.source before.files after.files) :
    let path := artifactPath cacheDir r.cacheKey
    let before := (loader.resolve registry r w).world.files
    let done := Processor.process ⟨loader, i.generator machine⟩ cacheDir registry r w
    done.value.1.status = .success →
      done.value.1.xmlLibdocPath = some path ∧ done.world.files.pathExists path = true ∧
      ∃ m, (loader.resolve registry r w).value.1 = .ok m ∧
        (CacheCheck.look done.world.files cacheDir r.cacheKey m.source = .hit path ↔
          ¬ (CacheCheck.look before cacheDir r.cacheKey m.source = .stale ∧
            done.world.files = before)) := by
  intro path before done
  have hstep := Processor.process_step ⟨loader, i.generator machine⟩ cacheDir registry r w
  change Processor.Step _ cacheDir registry r w done.value.1 done.world at hstep
  generalize done.value.1 = record at hstep ⊢
  generalize done.world = after at hstep ⊢
  intro success
  cases hstep with
  | unresolved => cases success
  | failed => cases success
  | @reused m found resolve check =>
    obtain ⟨hpath, k, e, hlocate, _⟩ := CacheCheck.look_eq_hit_iff.mp check
    subst hpath
    refine ⟨rfl, FileSystem.pathExists_iff.mpr ⟨k, e, hlocate⟩, m, resolve, fun _ hstale => ?_,
      fun _ => check⟩
    rw [show CacheCheck.look before cacheDir r.cacheKey m.source = _ from check] at hstale
    cases hstale.1
  | @generated m found resolve check generate =>
    obtain ⟨hpath, hexists, invocation, hlast, hworld⟩ := Interpreter.generator_eq_ok generate
    subst hpath
    refine ⟨rfl, hexists, m, resolve, ?_⟩
    rcases engine m resolve invocation hlast with hsame | hrenewed
    · -- The tool wrote nothing, so what is there was there before, and was no hit.
      rw [← hworld] at hsame
      change _ = before at hsame
      rw [hsame] at hexists ⊢
      have hstale := CacheCheck.look_eq_stale hexists check
      exact iff_of_false (check _) fun hnot => hnot ⟨hstale, rfl⟩
    · rw [← hworld] at hrenewed
      have hhit := CacheCheck.look_of_renewed hrenewed
      refine iff_of_true hhit fun ⟨hstale, hsame⟩ => ?_
      rw [← hsame, hhit] at hstale
      cases hstale

namespace Idle

/-- A loader that finds all modules in one file. -/
def loader : ModuleLoader Unit where
  loadFile name _ := pure ⟨name, some (.ofString "foo_src.py")⟩
  importModule dotted := pure ⟨dotted, some (.ofString "foo_src.py")⟩
  hasAttribute _ _ := pure false

/-- A machine whose programs end with success and write nothing. -/
def machine : Machine Unit where
  vars := ⟨[]⟩
  home := none
  execute _ := pure ⟨.code 0, [], []⟩

def interpreter : Interpreter := ⟨.ofString "/bin/python3", []⟩

def cacheDir : Path := .ofString "cache"

/-- A library that was changed at time 200, and its libdoc, written at some time. -/
def world (written : Time) : World Unit where
  files :=
    { entries :=
        [([Utf8.encode "bin"], .directory 0),
          ([Utf8.encode "bin", Utf8.encode "python3"],
            .file (FileSystem.nativeMark ++ List.replicate 12 0 ++ [2, 0]) 0o755 0),
          ([Utf8.encode "cache"], .directory 100),
          ([Utf8.encode "cache", Utf8.encode "foo.xml"], .file [] FileSystem.plainMode written),
          ([Utf8.encode "foo_src.py"], .file [] FileSystem.plainMode 200)]
      workingDirectory := []
      rootTime := 0
      readsAll := false }
  clock := 0
  host := ()

end Idle

namespace Busy

/-- A machine whose programs write the file that is named last, at time 250. -/
def machine : Machine Unit where
  vars := ⟨[]⟩
  home := none
  execute call := do
    let path : Path := ⟨call.arguments.getLast?.getD []⟩
    Action.updateFiles fun now fs => ((), ((fs.write now path [] 250).toOption).getD fs)
    pure ⟨.code 0, [], []⟩

/-- The files once a libdoc that was too old is written anew. -/
def files : FileSystem :=
  (Idle.world 100).files.put [Utf8.encode "cache", Utf8.encode "foo.xml"]
    (.file [] FileSystem.plainMode 250)

theorem renewed {call : Invocation}
    (hlast : call.arguments.getLast? = some (artifactPath Idle.cacheDir "foo").bytes) :
    FileSystem.Renewed (artifactPath Idle.cacheDir "foo") (some (.ofString "foo_src.py"))
      (Idle.world 100).files (machine.execute call (Idle.world 100)).world.files := by
  have hlocate : (Idle.world 100).files.locate true (artifactPath Idle.cacheDir "foo") =
      .ok (.taken [Utf8.encode "cache", Utf8.encode "foo.xml"]
        (.file [] FileSystem.plainMode 100)) := by
    decide +kernel
  have hwrite : (Idle.world 100).files.write 0 (artifactPath Idle.cacheDir "foo") [] 250 =
      .ok files := by
    rw [FileSystem.write, hlocate]
    rfl
  have hfiles : (machine.execute call (Idle.world 100)).world.files = files := by
    change ((Idle.world 100).files.write 0 ⟨call.arguments.getLast?.getD []⟩ [] 250).toOption.getD _ = _
    rw [hlast, Option.getD_some, hwrite]
    rfl
  rw [hfiles]
  exact FileSystem.renewed_of_write hlocate hwrite (by decide +kernel)

end Busy

/-- A libdoc that is older than its source, and a tool that writes it anew. -/
theorem success_reusable_iff_sample :
    let path := artifactPath Idle.cacheDir (Reference.mk "foo").cacheKey
    let source := some (Path.ofString "foo_src.py")
    let done := Processor.process ⟨Idle.loader, Idle.interpreter.generator Busy.machine⟩ Idle.cacheDir
      .empty ⟨"foo"⟩ (Idle.world 100)
    CacheCheck.look (Idle.world 100).files Idle.cacheDir (Reference.mk "foo").cacheKey source = .stale ∧
      done.value.1.status = .success ∧ done.value.1.cacheStatus = .miss ∧
      done.value.1.xmlLibdocPath = some path ∧ done.world.files.pathExists path = true ∧
      CacheCheck.look done.world.files Idle.cacheDir (Reference.mk "foo").cacheKey source =
        .hit path := by
  intro path source done
  have hresolve : (Idle.loader.resolve .empty ⟨"foo"⟩ (Idle.world 100)).value.1 =
      .ok ⟨"foo", "foo", source, ⟨"foo"⟩⟩ := by decide +kernel
  have hdone : done.value.1.status = .success ∧ done.value.1.cacheStatus = .miss ∧
      done.world.files ≠ (Idle.world 100).files := by decide +kernel
  have engine : ∀ m, (Idle.loader.resolve .empty ⟨"foo"⟩ (Idle.world 100)).value.1 = .ok m →
      ∀ call : Invocation, call.arguments.getLast? = some path.bytes →
      FileSystem.Renewed path m.source (Idle.world 100).files
        (Busy.machine.execute call (Idle.world 100)).world.files := by
    intro m hm call hlast
    rw [hresolve] at hm
    cases hm
    exact Busy.renewed hlast
  obtain ⟨hpath, hexists, m, hm, hlook⟩ := success_reusable_iff
    (fun m hm call hlast => .inr (engine m hm call hlast)) hdone.1
  rw [hresolve] at hm
  cases hm
  exact ⟨by decide +kernel, hdone.1, hdone.2.1, hpath, hexists, hlook.mpr fun h => hdone.2.2 h.2⟩

/-- A libdoc that is older than its source is reported as generated when the tool ends with success and
writes nothing. -/
theorem stale_libdoc_counts_as_generated :
    let done := Processor.process ⟨Idle.loader, Idle.interpreter.generator Idle.machine⟩ Idle.cacheDir
      .empty ⟨"foo"⟩ (Idle.world 100)
    done.value.1.status = .success ∧ done.value.1.cacheStatus = .miss ∧
      done.value.1.sourcePath = some (.ofString "foo_src.py") ∧
      CacheCheck.look done.world.files Idle.cacheDir (Reference.mk "foo").cacheKey
        (some (.ofString "foo_src.py")) = .stale := by
  decide +kernel

end KeywordDocs
