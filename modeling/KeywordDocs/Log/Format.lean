import KeywordDocs.Event
import KeywordDocs.Host.Variables
import KeywordDocs.Json.Basic
import KeywordDocs.Text.Lowercase
import KeywordDocs.Text.Quoted

/-!
# Writing log events

Events are written as lines of text, with or without colours, or as JSON. Times are not part of an
event: whoever writes a line supplies them.
-/

namespace KeywordDocs

/-- How events are written. -/
inductive LogFormat where
  /-- Text with a coloured level. -/
  | pretty
  /-- Text. -/
  | compact
  | json
  deriving DecidableEq, Repr

/-- The format a word names; another word leaves it to whether the run is unattended. -/
def LogFormat.ofWord (word : String) (unattended : Bool) : LogFormat :=
  let word := String.ofList (Text.lowercase word.toList)
  if word = "json" then .json
  else if word = "compact" then .compact
  else if word = "pretty" then .pretty
  else if unattended then .compact
  else .pretty

/-- The format that the variables ask for. -/
def LogFormat.ofVariables (v : Variables) : LogFormat :=
  .ofWord ((v.text? "LIBDOC_CACHE_LOG_FORMAT").getD "") (v.text? "CI").isSome

/-- Times in a log line, in writing. -/
structure ClockText where
  /-- The time of the event. -/
  stamp : String
  /-- The time an operation took. -/
  elapsed : String
  deriving DecidableEq, Repr

/-- The name of a level. -/
def Level.name : Level → String
  | .error => "ERROR"
  | .warn => "WARN"
  | .info => "INFO"
  | .debug => "DEBUG"
  | .trace => "TRACE"

/-- The colour of a level, as a terminal takes it. -/
def Level.colour : Level → String
  | .error => "31"
  | .warn => "33"
  | .info => "32"
  | .debug => "34"
  | .trace => "35"

/-- A style of a terminal. -/
def styleMark (code : String) : String := "\x1b[" ++ code ++ "m"

/-- A text in a style. -/
def styled (code text : String) : String := styleMark code ++ text ++ styleMark "0"

namespace FieldValue

/-- A value in a line of text. -/
def text (clock : ClockText) : FieldValue → String
  | .plain s => s
  | .quoted s => Text.quoted s
  | .number n => toString n
  | .flag b => toString b
  | .elapsed => clock.elapsed

/-- A value in a line of JSON. -/
def json (clock : ClockText) : FieldValue → String
  | .plain s => String.ofList (Json.quote s)
  | .quoted s => String.ofList (Json.quote s)
  | .number n => toString n
  | .flag b => toString b
  | .elapsed => clock.elapsed

end FieldValue

/-- A character of a message: one that would control a terminal is escaped. -/
def safeChar (c : Char) : List Char :=
  let n := c.toNat
  if n = 0x1B then "\\x1b".toList
  else if n = 0x07 then "\\x07".toList
  else if n = 0x08 then "\\x08".toList
  else if n = 0x0C then "\\x0c".toList
  else if n = 0x7F then "\\x7f".toList
  else if 0x80 ≤ n ∧ n ≤ 0x9F then "\\u\x7b".toList ++ Nat.toDigits 16 n ++ ['\x7d']
  else [c]

/-- A message in a line of text. -/
def safeMessage (message : String) : String := String.ofList (message.toList.flatMap safeChar)

namespace Event

/-- A field in a line of text, `colours` telling whether names are set off. -/
def fieldText (colours : Bool) (clock : ClockText) (field : String × FieldValue) : String :=
  let (name, value) := field
  " " ++ (if colours then styled "3" name ++ styled "2" "=" else name ++ "=") ++ value.text clock

/-- The level and the name of the program in a line of text. -/
def heading (colours : Bool) (level : Level) : String :=
  let name := level.name
  let text := name ++ "".pushn ' ' (5 - name.length) ++ "(libdoc-cache)"
  (if colours then styled level.colour text else text) ++ ": "

/-- An event as a line of text. -/
def textLine (colouredLevel colours : Bool) (clock : ClockText) (e : Event) : String :=
  clock.stamp ++ " " ++ heading colouredLevel e.level ++ safeMessage e.message ++
    String.join (e.fields.map (fieldText colours clock)) ++ "\n"

/-- A member of an object in a line of JSON. -/
def jsonMember (name value : String) : String := String.ofList (Json.quote name) ++ ":" ++ value

/-- An event as a line of JSON. -/
def jsonLine (clock : ClockText) (e : Event) : String :=
  let string (s : String) : String := String.ofList (Json.quote s)
  let fields := jsonMember "message" (string e.message) ::
    e.fields.map fun (name, value) => jsonMember name (value.json clock)
  let members := [jsonMember "timestamp" (string clock.stamp),
    jsonMember "level" (string e.level.name),
    jsonMember "fields" ("\x7b" ++ String.intercalate "," fields ++ "\x7d")]
  "\x7b" ++ String.intercalate "," members ++ "\x7d\n"

/-- An event as a line in a format. Colours can be turned off for the fields only. -/
def line (format : LogFormat) (colours : Bool) (clock : ClockText) (e : Event) : String :=
  match format with
  | .pretty => e.textLine true colours clock
  | .compact => e.textLine false colours clock
  | .json => e.jsonLine clock

end Event

/-- Are the fields set off? They are unless the variable `NO_COLOR` is set to something. -/
def fieldColours (v : Variables) : Bool := (v.text? "NO_COLOR").all (· = "")

end KeywordDocs
