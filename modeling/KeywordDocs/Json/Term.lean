import KeywordDocs.Json.Token

/-!
# JSON terms

A term is a JSON text taken apart and not yet interpreted: numbers are as written, strings may
stand for no text, and members of objects may repeat. What a reader makes of a term depends on
what it looks for; parts it does not look at need only be well formed.

Terms are built by a machine with a stack of the arrays and objects that are open, so nesting of
any depth can be read.
-/

namespace KeywordDocs.Json

/-- A JSON text taken apart. -/
inductive Term where
  | null
  | bool (value : Bool)
  | number (numeral : Numeral)
  | string (text : Option String)
  | array (items : List Term)
  | object (members : List (Option String × Term))
  deriving Repr

/-- An open array or object: what it holds so far, latest first, and the name whose value is
being read. -/
inductive Frame where
  | array (reversed : List Term)
  | object (reversed : List (Option String × Term)) (name : Option String)
  deriving Repr

/-- What the machine expects next. -/
inductive Expect where
  /-- A value. -/
  | value
  /-- A value, or the end of the array just opened. -/
  | firstItem
  /-- A name. -/
  | name (reversed : List (Option String × Term))
  /-- A name, or the end of the object just opened. -/
  | firstName
  /-- The colon after a name. -/
  | colon (reversed : List (Option String × Term)) (name : Option String)
  /-- A comma or a closing bracket after an item. -/
  | next (term : Term)
  deriving Repr

/-- The machine: the open arrays and objects, innermost first, and what is expected. -/
structure Builder where
  stack : List Frame
  expect : Expect
  deriving Repr

namespace Builder

/-- The machine before the first token. -/
def start : Builder := ⟨[], .value⟩

/-- A value that consists of one token. -/
def scalar? : Token → Option Term
  | .null => some .null
  | .bool b => some (.bool b)
  | .number n => some (.number n)
  | .string s => some (.string s)
  | _ => none

/-- Takes a token where a value is expected. -/
def takeValue (stack : List Frame) : Token → Option Builder
  | .openArray => some ⟨stack, .firstItem⟩
  | .openObject => some ⟨stack, .firstName⟩
  | t => (scalar? t).map fun v => ⟨stack, .next v⟩

/-- Takes a token. -/
def step (b : Builder) (t : Token) : Option Builder :=
  match b.expect, b.stack with
  | .value, stack => takeValue stack t
  | .firstItem, stack =>
    if t = .closeArray then some ⟨stack, .next (.array [])⟩ else takeValue (.array [] :: stack) t
  | .firstName, stack =>
    match t with
    | .closeObject => some ⟨stack, .next (.object [])⟩
    | .string name => some ⟨stack, .colon [] name⟩
    | _ => none
  | .name reversed, stack =>
    match t with
    | .string name => some ⟨stack, .colon reversed name⟩
    | _ => none
  | .colon reversed name, stack =>
    if t = .colon then some ⟨.object reversed name :: stack, .value⟩ else none
  | .next _, [] => none
  | .next v, .array reversed :: stack =>
    match t with
    | .comma => some ⟨.array (v :: reversed) :: stack, .value⟩
    | .closeArray => some ⟨stack, .next (.array (v :: reversed).reverse)⟩
    | _ => none
  | .next v, .object reversed name :: stack =>
    match t with
    | .comma => some ⟨stack, .name ((name, v) :: reversed)⟩
    | .closeObject => some ⟨stack, .next (.object ((name, v) :: reversed).reverse)⟩
    | _ => none

/-- Takes tokens one after another. -/
def run : Builder → List Token → Option Builder
  | b, [] => some b
  | b, t :: ts => (b.step t).bind fun b => run b ts

/-- The finished term, when nothing is open. -/
def result? (b : Builder) : Option Term :=
  match b.expect, b.stack with
  | .next v, [] => some v
  | _, _ => none

end Builder

/-- The term that a text is, if it is JSON. -/
def Term.ofString? (text : String) : Option Term := do
  let ts ← tokens? text
  let b ← Builder.start.run ts
  b.result?

end KeywordDocs.Json
