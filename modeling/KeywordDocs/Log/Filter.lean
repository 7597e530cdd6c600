import KeywordDocs.Event
import KeywordDocs.Host.Variables
import KeywordDocs.Text.Pattern

/-!
# Choosing log events

The variable `RUST_LOG` lists directives, separated by commas. A directive sets the most detailed
level that is logged, for all events, for the events of some part of the program, or for events
that have certain fields. The most specific directive that fits an event decides; an event that
none fits is not logged.

A directive may also speak of spans. There are none here, so it chooses no events.
-/

namespace KeywordDocs

/-- A directive: it sets the rank of the most detailed level for some events. -/
structure Directive where
  rank : Nat
  /-- The start of the target of an event. -/
  target : Option String
  /-- Fields that an event must have. -/
  fields : List String
  /-- It speaks of spans, not of events. -/
  spansOnly : Bool
  deriving DecidableEq, Repr

namespace Directive

/-- The rank of the most detailed level. -/
def allLevels : Nat := 5

/-- The number a text writes in decimal; a plus sign may stand in front. -/
def number? (cs : List Char) : Option Nat :=
  let cs := if cs.head? = some '+' then cs.drop 1 else cs
  if cs ≠ [] ∧ cs.all Char.isDigit then
    some (cs.foldl (fun n d => n * 10 + (d.toNat - 48)) 0)
  else none

/-- The names of the ranks. -/
def rankNames : List (String × Nat) :=
  [("off", 0), ("error", 1), ("warn", 2), ("info", 3), ("debug", 4), ("trace", 5)]

/-- The rank a word names, by number or by name in any case. -/
def rank? (word : List Char) : Option Nat :=
  match (number? word).filter (· ≤ allLevels) with
  | some n => some n
  | none => rankNames.lookup (String.ofList (word.map Char.toLower))

/-- Where the reading of a directive stands; numbers tell where a part begins. -/
inductive Stage where
  | start
  | levelOrTarget (first : Nat)
  | span (first : Nat)
  | field (first : Nat)
  | fieldsDone
  | spanDone
  | level (first : Nat)
  deriving DecidableEq, Repr

/-- May a directive start with this character? -/
def isStart (c : Char) : Bool := c = '-' || c = ':' || c = '_' || Text.isAlphanumeric c

/-- The stretch of a text between two places. -/
def stretch (text : List Char) (first last : Nat) : List Char := (text.take last).drop first

/-- Is the text a decimal fraction, with or without an exponent? -/
def isFraction (cs : List Char) : Bool :=
  let mantissa := cs.takeWhile fun c => c ≠ 'e' && c ≠ 'E'
  let exponent := cs.drop mantissa.length
  let digits := mantissa.filter (· ≠ '.')
  digits ≠ [] && digits.all Char.isDigit && mantissa.count '.' ≤ 1 &&
    (exponent = [] ||
      let digits := if exponent[1]? = some '-' then exponent.drop 2 else exponent.drop 1
      (number? digits).isSome)

/-- Is the text a number with a plus sign? -/
def isPlusNumber : List Char → Bool
  | '+' :: cs =>
    isFraction cs || String.ofList (cs.map Char.toLower) ∈ ["inf", "infinity", "nan"]
  | _ => false

/-- Can a field be asked to have this value? A value is a number or a pattern. -/
def isValue (cs : List Char) : Bool := isPlusNumber cs || Text.Pattern.isWellFormed cs

/-- Adds a field that a directive asks for. One with a value can only fit spans. -/
def addField (d : Directive) (text : List Char) : Option Directive :=
  if text = [] then none
  else
    match Text.split '=' text with
    | name :: value :: _ =>
      if isValue value then
        some { d with fields := d.fields ++ [String.ofList name], spansOnly := true }
      else none
    | _ => some { d with fields := d.fields ++ [String.ofList text] }

/-- Takes the character at place `i`. -/
def step (text : List Char) (i : Nat) (c : Char) (d : Directive) :
    Stage → Option (Stage × Directive)
  | .start =>
    if c = '[' then some (.span (i + 1), d)
    else if isStart c then some (.levelOrTarget i, d)
    else none
  | .levelOrTarget first =>
    if c = '=' then
      some (.level (i + 1), { d with target := some (String.ofList (stretch text first i)) })
    else if c = '[' then
      some (.span (i + 1), { d with target := some (String.ofList (stretch text first i)) })
    else some (.levelOrTarget first, d)
  | .span first =>
    if c = ']' then some (.spanDone, { d with spansOnly := true })
    else if c = '\x7b' then
      some (.field (i + 1), { d with spansOnly := d.spansOnly || stretch text first i ≠ [] })
    else some (.span first, d)
  | .field first =>
    if c = '\x7d' then (d.addField (stretch text first i)).map (.fieldsDone, ·)
    else some (.field first, d)
  | .fieldsDone => if c = ']' then some (.spanDone, d) else none
  | .spanDone => if c = '=' then some (.level (i + 1), d) else none
  | .level first => some (.level first, d)

/-- Takes characters one after another. -/
def run (text : List Char) : Nat → List Char → Stage → Directive → Option (Stage × Directive)
  | _, [], s, d => some (s, d)
  | i, c :: cs, s, d => (step text i c d s).bind fun (s, d) => run text (i + 1) cs s d

/-- Finishes a directive. -/
def finish (text : List Char) (d : Directive) : Stage → Option Directive
  | .levelOrTarget first =>
    let word := text.drop first
    match rank? word with
    | some r => some { d with rank := r }
    | none => some { d with rank := allLevels, target := some (String.ofList word) }
  | .level first =>
    let word := text.drop first
    if word = [] then some { d with rank := allLevels }
    else (rank? word).map fun r => { d with rank := r }
  | .spanDone => some d
  | _ => none

/-- Reads a directive. Blanks around it are passed over when it is taken apart, but places are
counted as if they were not there. -/
def ofChars? (text : List Char) : Option Directive := do
  let (s, d) ← run text 0 (Text.trimChars text) .start ⟨allLevels, none, [], false⟩
  d.finish text s

/-- Does the directive fit the event? -/
def fits (d : Directive) (e : Event) : Bool :=
  !d.spansOnly &&
    d.target.all (·.toList.isPrefixOf e.source.target.toList) &&
    d.fields.all fun f => f = "message" || e.fields.any (·.1 = f)

/-- How specific the target of a directive is. -/
def targetRank (d : Directive) : Nat := (d.target.map (·.length + 1)).getD 0

/-- Is the directive at least as specific as the other one? -/
def atLeast (d other : Directive) : Bool :=
  if d.targetRank ≠ other.targetRank then other.targetRank < d.targetRank
  else if d.fields.length ≠ other.fields.length then other.fields.length < d.fields.length
  else ¬ d.fields < other.fields

end Directive

/-- Which events are logged. -/
structure LogFilter where
  directives : List Directive
  deriving DecidableEq, Repr

namespace LogFilter

/-- Logs warnings and errors. -/
def standard : LogFilter := ⟨[⟨2, none, [], false⟩]⟩

/-- Logs errors. -/
def errorsOnly : LogFilter := ⟨[⟨1, none, [], false⟩]⟩

/-- The filter a list of directives describes. An empty list leaves errors. -/
def ofText? (text : String) : Option LogFilter := do
  let directives ← ((Text.split ',' text.toList).filter (· ≠ [])).mapM Directive.ofChars?
  some (if directives = [] then errorsOnly else ⟨directives⟩)

/-- The filter that the variables ask for. -/
def ofVariables (v : Variables) : LogFilter := ((v.text? "RUST_LOG").bind ofText?).getD standard

/-- The directive that decides on an event: of the most specific ones that fit, the last. -/
def deciding? (f : LogFilter) (e : Event) : Option Directive :=
  (f.directives.filter (·.fits e)).foldl
    (fun best d => if best.all d.atLeast then some d else best) none

/-- Is the event logged? -/
def accepts (f : LogFilter) (e : Event) : Bool :=
  (f.deciding? e).any fun d => e.level.rank ≤ d.rank

end LogFilter

end KeywordDocs
