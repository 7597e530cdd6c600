import KeywordDocs.Host.Interpreter
import KeywordDocs.Module.Loader

/-!
# Asking the interpreter for modules

The interpreter is given a script that loads a module and prints a reply on a line of its own. A
library may print as well while it is loaded, so only the last line counts.
-/

namespace KeywordDocs

/-- What a probe asks for. -/
inductive ProbeMode where
  /-- Load a file. -/
  | file
  /-- Import a module. -/
  | importing
  /-- Import a module and look for an attribute. -/
  | attr
  deriving DecidableEq, Repr

/-- The mode as the script takes it. -/
def ProbeMode.word : ProbeMode → String
  | .file => "file"
  | .importing => "import"
  | .attr => "attr"

/-- The lines of the script. -/
def probeLines : List String :=
  ["",
   "import importlib",
   "import importlib.machinery",
   "import importlib.util",
   "import inspect",
   "import json",
   "import os",
   "import sys",
   "",
   "",
   "def _source(module):",
   "    for getter in (inspect.getsourcefile, inspect.getfile):",
   "        try:",
   "            path = getter(module)",
   "        except TypeError:",
   "            path = None",
   "        if path:",
   "            return os.path.abspath(path)",
   "    path = getattr(module, '__file__', None)",
   "    return os.path.abspath(path) if path else None",
   "",
   "",
   "def _load(mode, target, extra):",
   "    if mode == 'file':",
   "        loader = importlib.machinery.SourceFileLoader(target, extra)",
   "        spec = importlib.util.spec_from_file_location(target, extra, loader=loader)",
   "        if spec is None or spec.loader is None:",
   "            raise ImportError('No module loader for %s' % extra)",
   "        module = importlib.util.module_from_spec(spec)",
   "        sys.modules[target] = module",
   "        spec.loader.exec_module(module)",
   "        return module",
   "    return importlib.import_module(target)",
   "",
   "",
   "def _main():",
   "    mode, target, extra = sys.argv[1:4]",
   "    sys.dont_write_bytecode = True",
   "    out = sys.stdout",
   "    sys.stdout = open(os.devnull, 'w')",
   "    try:",
   "        module = _load(mode, target, extra)",
   "        reply = \x7b'ok': True, 'source': _source(module)\x7d",
   "        if mode == 'attr':",
   "            reply['present'] = hasattr(module, extra)",
   "    except BaseException as exc:",
   "        reply = \x7b'ok': False, 'error': str(exc) or type(exc).__name__\x7d",
   "    sys.stdout = out",
   "    out.write('\\n' + json.dumps(reply) + '\\n')",
   "",
   "",
   "_main()",
   ""]

/-- The script that answers probes. -/
def probeScript : String := String.intercalate "\n" probeLines

/-- The reply of the script. -/
structure ProbeReply where
  ok : Bool
  source : Option String
  present : Option Bool
  error : Option String
  deriving DecidableEq, Repr

namespace ProbeReply

/-- A member that may be missing or null. -/
def optional? {α : Type} (read : Json.Term → Option α) : Option Json.Term → Option (Option α)
  | none => some none
  | some t => Json.Term.optional read t

/-- Reads a reply. Only `ok` must be there. -/
def ofTerm? (t : Json.Term) : Option ProbeReply := do
  match ← t.members? ["ok", "source", "present", "error"] with
  | [some ok, source, present, error] =>
    some ⟨← ok.bool?, ← optional? (·.string?) source, ← optional? (·.bool?) present,
      ← optional? (·.string?) error⟩
  | _ => none

end ProbeReply

namespace Interpreter

variable {σ : Type}

/-- Runs the script and reads its reply. -/
def probe (i : Interpreter) (m : Machine σ) (mode : ProbeMode) (target extra : String) :
    ExceptT LoadError (Action σ) ProbeReply := do
  let arguments := [mode.word, target, extra].map Utf8.encode
  let output ← (i.runScript m probeScript arguments).adapt fun e => LoadError.hostFailed e.inline
  match Json.readLastLine? ProbeReply.ofTerm? output.stdoutText with
  | none =>
    throw (.hostFailed ("probe exited with " ++ output.status.message ++ " without a reply: " ++
      Text.trim output.stderrText))
  | some reply =>
    Action.note ⟨.trace, .probe, "probe finished",
      [("mode", .quoted mode.word), ("module", .quoted target), ("ok", .flag reply.ok)]⟩
    if reply.ok then return reply
    else throw (.notImportable (reply.error.getD "unknown import error"))

/-- The loader that asks the interpreter. -/
def loader (i : Interpreter) (m : Machine σ) : ModuleLoader σ where
  loadFile name path := do
    let reply ← i.probe m .file name path.display
    return ⟨name, reply.source.map Path.ofString⟩
  importModule dotted := do
    let reply ← i.probe m .importing dotted ""
    return ⟨dotted, reply.source.map Path.ofString⟩
  hasAttribute loaded member := do
    let reply ← i.probe m .attr loaded.importName member
    return reply.present.getD false

end Interpreter

end KeywordDocs
