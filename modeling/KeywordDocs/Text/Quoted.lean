import KeywordDocs.Text.Hidden
import KeywordDocs.Text.Utf8

/-!
# Quoted text in log lines

Log lines show texts, paths and commands in double quotes, with escapes for quotes and
backslashes and for characters that do not show. Bytes that are not text are shown as two
hexadecimal digits each.
-/

namespace KeywordDocs.Text

/-- A character inside quotes. -/
def showChar (c : Char) : List Char :=
  if c.toNat = 0 then ['\\', '0']
  else if c = '\t' then ['\\', 't']
  else if c = '\r' then ['\\', 'r']
  else if c = '\n' then ['\\', 'n']
  else if c = '"' then ['\\', '"']
  else if c = '\\' then ['\\', '\\']
  else if isHidden c then ['\\', 'u', '\x7b'] ++ Nat.toDigits 16 c.toNat ++ ['\x7d']
  else [c]

/-- A text in quotes. -/
def quoted (s : String) : String := String.ofList ('"' :: (s.toList.flatMap showChar ++ ['"']))

/-- The two hexadecimal digits of a byte. -/
def byteDigits (b : UInt8) : List Char := [Nat.digitChar (b.toNat / 16), Nat.digitChar (b.toNat % 16)]

/-- A byte that is not text, inside quotes. -/
def showByte (b : UInt8) : List Char := '\\' :: 'x' :: (byteDigits b).map Char.toUpper

/-- Bytes in quotes, shown by a function for characters and one for bytes that are not text. -/
def quotedWith (char : Char → List Char) (byte : UInt8 → List Char) (bs : Bytes) : String :=
  String.ofList ('"' :: ((Utf8.pieces bs).flatMap fun
    | .char c => char c
    | .bad bytes => bytes.flatMap byte) ++ ['"'])

/-- Bytes in quotes. -/
def quotedBytes (bs : Bytes) : String := quotedWith showChar showByte bs

/-- A byte that is shown by its number in the name of a program. -/
def showProgramByte (b : UInt8) : List Char := '\\' :: 'x' :: byteDigits b

/-- A character inside the quotes of the name of a program: single quotes are marked too, and ASCII
control characters are shown as bytes. -/
def showProgramChar (c : Char) : List Char :=
  if c = '\x27' then ['\\', '\x27']
  else if c = '\t' ∨ c = '\r' ∨ c = '\n' ∨ c.toNat = 0 then showChar c
  else if c.toNat < 0x20 ∨ c.toNat = 0x7F then showProgramByte (UInt8.ofNat c.toNat)
  else showChar c

/-- The name of a program in quotes. -/
def quotedProgram (bs : Bytes) : String := quotedWith showProgramChar showProgramByte bs

end KeywordDocs.Text
