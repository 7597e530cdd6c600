/-!
# Log events

An event has a level, the part of the program it comes from, a message and named fields in a fixed
order. How events are chosen and written is a matter of the log settings.
-/

namespace KeywordDocs

/-- How important an event is, the most important level first. -/
inductive Level where
  | error
  | warn
  | info
  | debug
  | trace
  deriving DecidableEq, Repr

/-- The rank of a level: a higher one is more detailed. -/
def Level.rank : Level → Nat
  | .error => 1
  | .warn => 2
  | .info => 3
  | .debug => 4
  | .trace => 5

/-- The value of a field. -/
inductive FieldValue where
  /-- A text that is shown as it is. -/
  | plain (text : String)
  /-- A text that is shown in quotes. -/
  | quoted (text : String)
  | number (value : Nat)
  | flag (value : Bool)
  /-- The time the operation took. The model has no clock, so the value is not recorded. -/
  | elapsed
  deriving DecidableEq, Repr

/-- The parts of the program that log. -/
inductive Source where
  | batch
  | cache
  | configuration
  | generator
  | interpreter
  | probe
  | processor
  | program
  | resolver
  deriving DecidableEq, Repr

/-- The name a part of the program has in log filters. -/
def Source.target : Source → String
  | .batch => "libdoc_cache::batch"
  | .cache => "libdoc_cache::cache"
  | .configuration => "libdoc_cache::config"
  | .generator => "libdoc_cache::generator"
  | .interpreter => "libdoc_cache::interpreter"
  | .probe => "libdoc_cache::resolver::python"
  | .processor => "libdoc_cache::processor"
  | .program => "libdoc_cache::commands::run"
  | .resolver => "libdoc_cache::resolver"

/-- Something worth telling that happened during a run. -/
structure Event where
  level : Level
  source : Source
  message : String
  fields : List (String × FieldValue)
  deriving DecidableEq, Repr

end KeywordDocs
