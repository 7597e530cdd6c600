import KeywordDocs.Text.Utf8

/-!
# How a called program ended
-/

namespace KeywordDocs

/-- How a program ended: by itself with a code, or killed by a signal. -/
inductive ExitStatus where
  | code (value : Nat)
  | signal (number : Nat)
  deriving DecidableEq, Repr

namespace ExitStatus

/-- The status of a program that ends with a number: only its low eight bits are passed on. -/
def ofNumber (n : Int) : ExitStatus := .code (n % 256).toNat

/-- A program succeeded when it ended by itself with code 0. -/
def isSuccess (s : ExitStatus) : Bool := s = .code 0

/-- The names of the signals, by number. -/
def signalNames : List (Nat × String) :=
  [(1, "SIGHUP"), (2, "SIGINT"), (3, "SIGQUIT"), (4, "SIGILL"), (5, "SIGTRAP"), (6, "SIGABRT"),
   (7, "SIGBUS"), (8, "SIGFPE"), (9, "SIGKILL"), (10, "SIGUSR1"), (11, "SIGSEGV"),
   (12, "SIGUSR2"), (13, "SIGPIPE"), (14, "SIGALRM"), (15, "SIGTERM"), (16, "SIGSTKFLT"),
   (17, "SIGCHLD"), (18, "SIGCONT"), (19, "SIGSTOP"), (20, "SIGTSTP"), (21, "SIGTTIN"),
   (22, "SIGTTOU"), (23, "SIGURG"), (24, "SIGXCPU"), (25, "SIGXFSZ"), (26, "SIGVTALRM"),
   (27, "SIGPROF"), (28, "SIGWINCH"), (29, "SIGIO"), (30, "SIGPWR"), (31, "SIGSYS")]

/-- The text of a status, as users see it. -/
def message : ExitStatus → String
  | .code n => "exit status: " ++ toString n
  | .signal n =>
    match signalNames.lookup n with
    | some name => "signal: " ++ toString n ++ " (" ++ name ++ ")"
    | none => "signal: " ++ toString n

end ExitStatus

/-- What a program leaves when it has ended. -/
structure Output where
  status : ExitStatus
  stdout : Bytes
  stderr : Bytes
  deriving DecidableEq, Repr

/-- What a program printed, as text. -/
def Output.stdoutText (o : Output) : String := Utf8.decodeLossy o.stdout

/-- What a program printed to its error stream, as text. -/
def Output.stderrText (o : Output) : String := Utf8.decodeLossy o.stderr

end KeywordDocs
