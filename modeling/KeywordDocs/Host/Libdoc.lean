import KeywordDocs.Artifact.Generator
import KeywordDocs.Host.Interpreter

/-!
# Generating libdoc files with the interpreter

Robot Framework's own libdoc tool writes the file. Its word is not taken for it: a libdoc counts as
written only when it is there.
-/

namespace KeywordDocs.Interpreter

variable {σ : Type}

/-- The module that is the libdoc tool. -/
def libdocModule : String := "robot.libdoc"

/-- What the tool had to tell: its errors, or else its output. -/
def complaint (o : Output) : String :=
  let errors := Text.trim o.stderrText
  if errors = "" then Text.trim o.stdoutText else errors

/-- The generator that runs the libdoc tool. -/
def generator (i : Interpreter) (m : Machine σ) : Generator σ := fun r key cacheDir => do
  let path := artifactPath cacheDir key
  let arguments := [Utf8.encode "--format", Utf8.encode "XML", Utf8.encode r.raw, path.bytes]
  let output ← (i.runModule m libdocModule arguments).adapt fun e => e.within (.runLibdoc r)
  if ¬ output.status.isSuccess then
    throw (Failure.root (.libdocExit output.status r (complaint output)))
  else if ¬ (← ExceptT.lift Action.files).pathExists path then
    throw (Failure.root (.libdocMissing path))
  else
    Action.note ⟨.debug, .generator, "libdoc written",
      [("library", .plain r.raw), ("cache_key", .quoted key), ("duration_ms", .elapsed)]⟩
    return path

end KeywordDocs.Interpreter
