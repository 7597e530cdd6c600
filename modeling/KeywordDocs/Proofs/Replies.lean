import KeywordDocs.Proofs.Endings
import KeywordDocs.Proofs.Lines

/-!
# Replies of the interpreter

What the interpreter prints before its reply, and blank lines behind it, change no answer. A machine is
compared with one that does the same and prints something else (`Machine.printing`): a call differs
in what was printed only (`call_printing`), and a probe looks at nothing of it but the last line
(`probe_printing`). The three questions of a loader are one family (`Question`), so `answers_amid_noise`
says for all of them which reply gives which answer.
-/

namespace KeywordDocs

variable {σ : Type}

/-! ### Machines that print something else -/

/-- The same end of a program with other bytes printed. -/
def Output.printing (o : Output) (stdout : Bytes) : Output := { o with stdout := stdout }

/-- The machine whose programs do what they did, and print these bytes. -/
def Machine.printing (m : Machine σ) (stdout : Bytes) : Machine σ where
  vars := m.vars
  home := m.home
  execute call := (·.printing stdout) <$> m.execute call

theorem Machine.run_printing (m : Machine σ) (stdout : Bytes) (c : Command) :
    (m.printing stdout).run c = Except.map (·.printing stdout) <$> m.run c := by
  unfold Machine.run
  dsimp only [Machine.printing]
  split
  · rw [map_pure]
    rfl
  · rw [map_bind]
    refine congrArg _ (funext fun fs => ?_)
    cases fs.startProgram m.vars c.executable with
    | error e => exact (map_pure _ _).symm
    | ok before =>
      dsimp only
      split
      · exact (map_pure _ _).symm
      · simp only [bind_map_left, map_bind, map_pure, Except.map]

namespace Interpreter

/-- A call differs in what was printed, and in nothing else. -/
theorem call_printing (i : Interpreter) (m : Machine σ) (stdout : Bytes) (arguments : List Bytes) :
    i.call (m.printing stdout) arguments = (·.printing stdout) <$> i.call m arguments := by
  unfold call
  rw [show (m.printing stdout).vars = m.vars from rfl]
  simp only [map_bind, m.run_printing]
  refine congrArg _ (funext fun own => congrArg _ (funext fun _ => ?_))
  apply ExceptT.ext
  simp only [ExceptT.run_bind, ExceptT.run_lift, bind_map_left]
  refine congrArg _ (funext fun result => ?_)
  cases result with
  | error e => rfl
  | ok output => rfl

theorem value_script_printing (i : Interpreter) (m : Machine σ) (stdout : Bytes) (script : String)
    (arguments : List Bytes) (w : World σ) :
    ((i.runScript (m.printing stdout) script arguments).run w).value =
      ((i.runScript m script arguments).run w).value.map (·.printing stdout) := by
  rw [runScript, call_printing, ExceptT.run_map, Action.value_map]
  rfl

/-! ### Probes -/

/-- Of what was printed, a probe looks at the reply that it reads from it. -/
theorem probe_printing {stdout stdout' : Bytes}
    (same : Json.readLastLine? ProbeReply.ofTerm? (Utf8.decodeLossy stdout) =
      Json.readLastLine? ProbeReply.ofTerm? (Utf8.decodeLossy stdout'))
    (i : Interpreter) (m : Machine σ) (mode : ProbeMode) (target extra : String) :
    i.probe (m.printing stdout) mode target extra = i.probe (m.printing stdout') mode target extra := by
  apply ExceptT.ext
  simp only [probe, runScript, call_printing, ExceptT.run_bind, ExceptT.run_adapt, ExceptT.run_map,
    bind_map_left]
  refine congrArg _ (funext fun result => ?_)
  cases result with
  | error e => rfl
  | ok output =>
    dsimp only [Except.map, Except.mapError, Output.stdoutText, Output.printing]
    rw [same]
    rfl

end Interpreter

/-! ### The questions of a loader -/

/-- A question to a loader, with the type of its answer. -/
inductive Question : Type → Type where
  | loadFile (name : String) (path : Path) : Question LoadedModule
  | importModule (dotted : String) : Question LoadedModule
  | hasAttribute (loaded : LoadedModule) (member : String) : Question Bool

/-- Puts a question to a loader. -/
def ModuleLoader.ask {α : Type} (loader : ModuleLoader σ) :
    Question α → ExceptT LoadError (Action σ) α
  | .loadFile name path => loader.loadFile name path
  | .importModule dotted => loader.importModule dotted
  | .hasAttribute loaded member => loader.hasAttribute loaded member

namespace Question

variable {α : Type}

def mode : Question α → ProbeMode
  | .loadFile _ _ => .file
  | .importModule _ => .importing
  | .hasAttribute _ _ => .attr

def target : Question α → String
  | .loadFile name _ => name
  | .importModule dotted => dotted
  | .hasAttribute loaded _ => loaded.importName

def extra : Question α → String
  | .loadFile _ path => path.display
  | .importModule _ => ""
  | .hasAttribute _ member => member

/-- The words that the script gets. -/
def arguments (q : Question α) : List Bytes := [q.mode.word, q.target, q.extra].map Utf8.encode

/-- The answer that a reply holds. -/
def answer : Question α → ProbeReply → α
  | .loadFile name _, reply => ⟨name, reply.source.map Path.ofString⟩
  | .importModule dotted, reply => ⟨dotted, reply.source.map Path.ofString⟩
  | .hasAttribute _ _, reply => reply.present.getD false

/-- What comes of a question, by how the call for it ended and what was read as the reply. -/
def result (q : Question α) : Except Failure Output → Option ProbeReply → Except LoadError α
  | .error e, _ => .error (.hostFailed e.inline)
  | .ok output, none =>
    .error (.hostFailed ("probe exited with " ++ output.status.message ++ " without a reply: " ++
      Text.trim output.stderrText))
  | .ok _, some reply =>
    if reply.ok then .ok (q.answer reply)
    else .error (.notImportable (reply.error.getD "unknown import error"))

/-- An answer takes a call and a reply that says `ok`, a module can not be imported when the reply does
not say so, and the host has failed when there was no call or no reply. -/
theorem result_iff (q : Question α) (call : Except Failure Output) (reply? : Option ProbeReply) :
    ((∃ a, q.result call reply? = .ok a) ↔
      (∃ output, call = .ok output) ∧ ∃ reply, reply? = some reply ∧ reply.ok = true) ∧
    ((∃ reason, q.result call reply? = .error (.notImportable reason)) ↔
      (∃ output, call = .ok output) ∧ ∃ reply, reply? = some reply ∧ reply.ok = false) ∧
    ((∃ reason, q.result call reply? = .error (.hostFailed reason)) ↔
      (∃ e, call = .error e) ∨ reply? = none) := by
  cases call with
  | error e => simp [result]
  | ok output =>
    cases reply? with
    | none => simp [result]
    | some reply => cases hok : reply.ok <;> simp [result, hok]

end Question

namespace Interpreter

variable {α : Type}

theorem ask_loader (i : Interpreter) (m : Machine σ) (q : Question α) :
    (i.loader m).ask q = q.answer <$> i.probe m q.mode q.target q.extra := by
  cases q with
  | loadFile name path => exact bind_pure_comp _ _
  | importModule dotted => exact bind_pure_comp _ _
  | hasAttribute loaded member => exact bind_pure_comp _ _

/-- A question takes one call of the script, and is answered by the last line that it prints. -/
theorem value_ask (i : Interpreter) (m : Machine σ) (q : Question α) (w : World σ) :
    let call := ((i.runScript m probeScript q.arguments).run w).value
    (((i.loader m).ask q).run w).value =
      q.result call (call.toOption.bind fun output =>
        Json.readLastLine? ProbeReply.ofTerm? output.stdoutText) := by
  intro call
  have hadapt : (((i.runScript m probeScript q.arguments).adapt fun e =>
      LoadError.hostFailed e.inline).run w).value = call.mapError fun e => .hostFailed e.inline := rfl
  rw [ask_loader, ExceptT.run_map, Action.value_map, probe]
  cases hcall : call with
  | error e =>
    rw [hcall] at hadapt
    exact congrArg (Except.map q.answer) (Action.run_bind_of_error hadapt).1
  | ok output =>
    rw [hcall] at hadapt
    refine (congrArg (Except.map q.answer) (Action.run_bind_of_ok hadapt).1).trans ?_
    rw [Except.toOption, Option.bind_some]
    cases Json.readLastLine? ProbeReply.ofTerm? output.stdoutText with
    | none => rfl
    | some reply =>
      rw [(Action.run_bind_of_ok (a := ()) rfl).1, Question.result]
      by_cases hok : reply.ok = true
      · rw [if_pos hok, if_pos hok]
        rfl
      · rw [if_neg hok, if_neg hok]
        rfl

theorem value_ask_printing (i : Interpreter) (m : Machine σ) (q : Question α) (w : World σ)
    (stdout : Bytes) :
    (((i.loader (m.printing stdout)).ask q).run w).value =
      q.result ((i.runScript m probeScript q.arguments).run w).value
        (Json.readLastLine? ProbeReply.ofTerm? (Utf8.decodeLossy stdout)) := by
  rw [value_ask, value_script_printing]
  cases ((i.runScript m probeScript q.arguments).run w).value with
  | error e => rfl
  | ok output =>
    rw [Except.map, Except.toOption, Option.bind_some, Output.stdoutText, Output.printing]
    cases Json.readLastLine? ProbeReply.ofTerm? (Utf8.decodeLossy stdout) with
    | none => rfl
    | some reply => rfl

theorem loader_printing {stdout stdout' : Bytes}
    (same : Json.readLastLine? ProbeReply.ofTerm? (Utf8.decodeLossy stdout) =
      Json.readLastLine? ProbeReply.ofTerm? (Utf8.decodeLossy stdout'))
    (i : Interpreter) (m : Machine σ) :
    i.loader (m.printing stdout) = i.loader (m.printing stdout') := by
  simp only [loader, probe_printing same]

/-- The description of the host by what is printed, whatever it is. -/
theorem survey_printing {environment : HostEnvironment} (i : Interpreter) (m : Machine σ) (w : World σ)
    (stdout : Bytes) :
    ((i.survey (m.printing stdout)).run w).value = .ok environment ↔
      ∃ output facts, (i.askForEnvironment m w).value = .ok output ∧ output.status.isSuccess = true ∧
        Json.readLastLine? InterpreterFacts.ofTerm? (Utf8.decodeLossy stdout) = some facts ∧
        environment = i.describe m.vars facts := by
  have hcall : (i.askForEnvironment (m.printing stdout) w).value =
      (i.askForEnvironment m w).value.map (·.printing stdout) :=
    value_script_printing i m stdout environmentScript [] w
  rw [(i.survey_eq (m.printing stdout) w).2, hcall]
  cases (i.askForEnvironment m w).value with
  | error e => simp [Except.map]
  | ok output =>
    simp [Except.map, Output.printing, Output.stdoutText, Machine.printing]

/-- **What is printed before a reply, and blank lines behind it, change nothing.** Let a reply stand on a
line of its own after whole lines of any bytes, and have only blanks behind it. Then the loader is the one
that sees the reply alone. Each question to it is answered by the reply, decoded and trimmed, however
the program ended: it has an answer when the reply says `ok`, a module that can not be imported when it
does not, and the host fails exactly when it can not be called or the reply can not be read. A program
that ends with success and tells the facts gives one description of the host, with the noise or without. -/
theorem answers_amid_noise {noise reply tail : Bytes} (h : Utf8.LastLine noise reply tail)
    (i : Interpreter) (m : Machine σ) (w : World σ) :
    let noisy := m.printing (noise ++ reply ++ tail)
    let quiet := m.printing reply
    let term := Json.Term.ofString? (Text.trim (Utf8.decodeLossy reply))
    i.loader noisy = i.loader quiet ∧
    (∀ (α : Type) (q : Question α),
      let call := ((i.runScript m probeScript q.arguments).run w).value
      let read := term.bind ProbeReply.ofTerm?
      let answer := (((i.loader noisy).ask q).run w).value
      answer = q.result call read ∧
      ((∃ a, answer = .ok a) ↔ (∃ output, call = .ok output) ∧ ∃ p, read = some p ∧ p.ok = true) ∧
      ((∃ reason, answer = .error (.notImportable reason)) ↔
        (∃ output, call = .ok output) ∧ ∃ p, read = some p ∧ p.ok = false) ∧
      ((∃ reason, answer = .error (.hostFailed reason)) ↔ (∃ e, call = .error e) ∨ read = none)) ∧
    ∀ machine ∈ [noisy, quiet], ∀ environment,
      ((i.survey machine).run w).value = .ok environment ↔
        ∃ output facts, (i.askForEnvironment m w).value = .ok output ∧
          output.status.isSuccess = true ∧ term.bind InterpreterFacts.ofTerm? = some facts ∧
          environment = i.describe m.vars facts := by
  intro noisy quiet term
  have hnoisy := fun {β : Type} (read : Json.Term → Option β) => h.readLastLine?_eq read
  have hquiet := fun {β : Type} (read : Json.Term → Option β) => h.alone.readLastLine?_eq read
  simp only [List.nil_append, List.append_nil] at hquiet
  refine ⟨loader_printing ((hnoisy _).trans (hquiet _).symm) i m, ?_, ?_⟩
  · intro α q call read answer
    have hanswer : answer = q.result call read := by
      rw [show read = _ from (hnoisy ProbeReply.ofTerm?).symm]
      exact value_ask_printing i m q w _
    rw [hanswer]
    exact ⟨rfl, q.result_iff call read⟩
  · intro machine hmachine environment
    rw [List.mem_pair] at hmachine
    rcases hmachine with rfl | rfl
    · rw [survey_printing, hnoisy]
    · rw [survey_printing, hquiet]

end Interpreter

namespace Hooked

/-- A sequence that breaks off at the end of its line, and a byte that begins none. -/
def noise : Bytes := [0xE2, 0x82, 10, 0xFF, 10]

/-- A reply to a probe that tells the facts as well, and ends in a carriage return. -/
def reply : Bytes := Utf8.encode
  "\x7b\"ok\":true,\"version\":\"3\",\"executable\":\"\",\"platform\":\"linux\",\"path\":[]\x7d\r"

/-- Blank lines, one of them with a next-line character. -/
def tail : Bytes := [10, 0xC2, 0x85, 10]

def interpreter : Interpreter := ⟨.ofString "python3", []⟩

-- The characters are named and checked one by one: a decision over all of `Char` would not end.
theorem lastLine : Utf8.LastLine noise reply tail where
  noise_ends := .inr (by decide)
  one_line := by decide +kernel
  not_blank := ⟨'k', by decide +kernel, by decide⟩
  tail_begins := .inr (by decide)
  tail_blank := List.all_eq_true.mp (by decide +kernel)

end Hooked

/-- A hook that prints half a character before the reply. -/
theorem Interpreter.answers_amid_noise_sample :
    let noisy := Mixed.machine.printing (Hooked.noise ++ Hooked.reply ++ Hooked.tail)
    Utf8.LastLine Hooked.noise Hooked.reply Hooked.tail ∧
      ((Hooked.interpreter.survey noisy).run Mixed.world).value =
        .ok (Hooked.interpreter.describe Mixed.machine.vars ⟨"3", "", "linux", []⟩) ∧
      ∃ loaded, (((Hooked.interpreter.loader noisy).ask (.importModule "Lib")).run
        Mixed.world).value = .ok loaded := by
  intro noisy
  have hread : (Json.Term.ofString? (Text.trim (Utf8.decodeLossy Hooked.reply))).bind
        InterpreterFacts.ofTerm? = some ⟨"3", "", "linux", []⟩ ∧
      (Json.Term.ofString? (Text.trim (Utf8.decodeLossy Hooked.reply))).bind ProbeReply.ofTerm? =
        some ⟨true, none, none, none⟩ := by decide +kernel
  have hcall : (Hooked.interpreter.askForEnvironment Mixed.machine Mixed.world).value =
      .ok ⟨.code 0, Utf8.encode Mixed.facts, []⟩ := by decide +kernel
  have hprobe : ((Hooked.interpreter.runScript Mixed.machine probeScript
      (Question.importModule "Lib").arguments).run Mixed.world).value =
        .ok ⟨.code 0, Utf8.encode "\x7b\"ok\":false\x7d", []⟩ := by
    rw [Interpreter.runScript, encode_probeScript]
    decide +kernel
  obtain ⟨_, hanswers, hsurvey⟩ := Interpreter.answers_amid_noise Hooked.lastLine Hooked.interpreter
    Mixed.machine Mixed.world
  obtain ⟨_, hok, _⟩ := hanswers _ (.importModule "Lib")
  refine ⟨Hooked.lastLine, ?_, hok.mpr ⟨⟨_, hprobe⟩, _, hread.2, rfl⟩⟩
  exact (hsurvey noisy List.mem_cons_self _).mpr ⟨_, _, hcall, rfl, hread.1, rfl⟩

end KeywordDocs
