import KeywordDocs.Digest.Sha256
import KeywordDocs.Host.Machine

/-!
# An interpreter that answers by rules

A rulebook stands in for a Python interpreter. Each call is answered by the first rule that fits
it: a rule may ask for a kind of call and for its first arguments, and may be good for a limited
number of calls only. Rules print, end with a status, and may write the file that the last argument
of the call names. The calls are kept, so that one can see what the interpreter was asked.
-/

namespace KeywordDocs

/-- What a call of the interpreter is for. -/
inductive CallKind where
  /-- Running a module. -/
  | module
  /-- Running a script with arguments. -/
  | probe
  /-- Asking for the environment. -/
  | env
  /-- Running any other script. -/
  | script
  deriving DecidableEq, Repr

/-- Does the list hold the other one as a stretch of it? -/
def holds {α : Type} [DecidableEq α] (stretch : List α) : List α → Bool
  | [] => stretch = []
  | c :: cs => stretch.isPrefixOf (c :: cs) || holds stretch cs

namespace Invocation

/-- The kind of a call, and the arguments that rules look at. -/
def classify (i : Invocation) : CallKind × List Bytes :=
  if i.arguments.head? = some (Utf8.encode "-m") then (.module, i.arguments.drop 1)
  else
    let rest := i.arguments.drop 2
    let script := i.arguments.getD 1 []
    if rest ≠ [] then (.probe, rest)
    else if holds (Utf8.encode "json.dumps") script then (.env, rest)
    else (.script, rest)

/-- The longest script that is kept in full, in bytes. -/
def maxShown : Nat := 200

/-- The arguments as they are kept: a long script is told by the start of its digest. -/
def shownArguments (i : Invocation) : List String :=
  i.arguments.mapIdx fun n argument =>
    if n = 1 ∧ maxShown < argument.length then
      "sha256:" ++ Sha256.hex ((Sha256.digest argument).take 8)
    else Utf8.decodeLossy argument

end Invocation

/-- A rule. -/
structure Rule where
  kind : Option CallKind
  /-- The first arguments, none standing for any. -/
  arguments : Option (List (Option Bytes))
  /-- The number of calls it is good for. -/
  times : Option Nat
  /-- The content and the time of the file it writes. -/
  write : Option (Bytes × Time)
  output : Output
  deriving DecidableEq, Repr

/-- Do the arguments start as the pattern says? -/
def matchesStart : List (Option Bytes) → List Bytes → Bool
  | [], _ => true
  | _ :: _, [] => false
  | expected :: pattern, argument :: rest =>
    (expected = none || expected = some argument) && matchesStart pattern rest

namespace Rule

/-- Does the rule answer this call, after it answered `used` calls? -/
def fits (r : Rule) (used : Nat) (i : Invocation) : Bool :=
  let (kind, rest) := i.classify
  (r.kind = none || r.kind = some kind) &&
    (r.arguments.map (matchesStart · rest)).getD true &&
    (r.times.map fun n => decide (used < n)).getD true

end Rule

/-- Rules, each with the number of calls it answered. -/
structure Rulebook where
  rules : List (Rule × Nat)
  /-- The calls so far, the latest first. -/
  calls : List Invocation
  deriving DecidableEq, Repr

namespace Rulebook

/-- A rulebook that was not used yet. -/
def ofRules (rules : List Rule) : Rulebook := ⟨rules.map (·, 0), []⟩

/-- The first rule that fits a call, and the rules with their new counts. -/
def answer (i : Invocation) : List (Rule × Nat) → Option Rule × List (Rule × Nat)
  | [] => (none, [])
  | (rule, used) :: rest =>
    if rule.fits used i then (some rule, (rule, used + 1) :: rest)
    else
      let (found, rest) := answer i rest
      (found, (rule, used) :: rest)

/-- What is printed when no rule fits. -/
def noRule : Output := ⟨.code 99, [], Utf8.encode "no rule\n"⟩

/-- Answers a call. -/
def execute (i : Invocation) : Action Rulebook Output := do
  let rule ← Action.updateHost fun book =>
    let (rule, rules) := answer i book.rules
    (rule, { book with rules := rules, calls := i :: book.calls })
  match rule with
  | none => return noRule
  | some rule =>
    match rule.write, i.arguments.getLast? with
    | some (content, time), some path =>
      let _ ← Action.updateFiles fun now fs =>
        fs.writeWithParents now ⟨path⟩ content time
    | _, _ => pure ()
    return rule.output

/-- The machine with these variables and this home directory whose interpreters go by the rules. -/
def machine (v : Variables) (home : Option Path) : Machine Rulebook := ⟨v, home, execute⟩

end Rulebook

end KeywordDocs
