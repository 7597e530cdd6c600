import KeywordDocs.FileSystem.Basic

/-!
# Scripts

A script names on its first line, after `#!`, the program that reads it, and may give one argument
for that program. Only the start of the file is looked at: a line that does not end there counts
only if the name of the program does.
-/

namespace KeywordDocs

/-- The first line of a script. -/
structure ScriptLine where
  program : Path
  argument : Option Bytes
  deriving DecidableEq, Repr

namespace ScriptLine

/-- The number of bytes that are looked at. -/
def headSize : Nat := 256

/-- Is the byte a blank or a tab? -/
def isSpace (b : UInt8) : Bool := b = 32 || b = 9

/-- Does the byte end the name of the program? -/
def endsName (b : UInt8) : Bool := b = 0 || isSpace b

/-- The bytes of the line after the two marks. A short file is filled up with zero bytes. -/
def body? (content : Bytes) : Option Bytes :=
  let head := (content ++ List.replicate (headSize - content.length) 0).take headSize |>.drop 2
  if (10 : UInt8) ∈ head then some (head.takeWhile (· ≠ 10))
  else if (head.dropWhile isSpace).any endsName then some head.dropLast
  else none

/-- The name and the argument in a line. An argument ends at a zero byte. -/
def ofBody? (body : Bytes) : Option ScriptLine :=
  let line := ((body.dropWhile isSpace).reverse.dropWhile isSpace).reverse
  if line = [] then none
  else
    let name := line.takeWhile (!endsName ·)
    match line.drop name.length with
    | [] | 0 :: _ => some ⟨⟨name⟩, none⟩
    | rest => some ⟨⟨name⟩, some ((rest.dropWhile isSpace).takeWhile (· ≠ 0))⟩

/-- The first line of a file, if it is a script. -/
def ofContent? : Bytes → Option ScriptLine
  | 35 :: 33 :: rest => (body? (35 :: 33 :: rest)).bind ofBody?
  | _ => none

end ScriptLine

end KeywordDocs
