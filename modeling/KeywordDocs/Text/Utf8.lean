/-!
# UTF-8

Bytes become text in two ways. `decode?` refuses bytes that are not UTF-8; `decodeLossy` puts the
replacement character U+FFFD in the place of each maximal part of a sequence that can not be
completed. Both read the same division of the bytes into `Piece`s, made one byte at a time.
-/

namespace KeywordDocs

/-- Raw bytes, as programs print them and files hold them. -/
abbrev Bytes := List UInt8

namespace Utf8

/-- The bytes of one character. -/
def encodeChar (c : Char) : Bytes :=
  let n := c.toNat
  if n < 0x80 then [UInt8.ofNat n]
  else if n < 0x800 then [UInt8.ofNat (0xC0 + n / 64), UInt8.ofNat (0x80 + n % 64)]
  else if n < 0x10000 then
    [UInt8.ofNat (0xE0 + n / 4096), UInt8.ofNat (0x80 + n / 64 % 64), UInt8.ofNat (0x80 + n % 64)]
  else
    [UInt8.ofNat (0xF0 + n / 262144), UInt8.ofNat (0x80 + n / 4096 % 64),
      UInt8.ofNat (0x80 + n / 64 % 64), UInt8.ofNat (0x80 + n % 64)]

/-- The bytes of a text. -/
def encode (s : String) : Bytes := s.toList.flatMap encodeChar

/-- A part of some bytes: a character, or bytes that begin a sequence and do not complete it. -/
inductive Piece where
  | char (c : Char)
  | bad (bytes : Bytes)
  deriving DecidableEq, Repr

/-- A sequence that has begun: the bytes seen, the bits they carry, how many continuation bytes
are owed, and the range of the next one. -/
structure Pending where
  seen : Bytes
  bits : Nat
  owed : Nat
  low : Nat
  high : Nat
  deriving DecidableEq, Repr

/-- What a byte at the start of a sequence is: a character of its own, a byte no sequence starts
with, or the start of a longer sequence. -/
def first (b : UInt8) : Piece ⊕ Pending :=
  let n := b.toNat
  if n < 0x80 then .inl (.char (Char.ofNat n))
  else if n < 0xC2 then .inl (.bad [b])
  else if n < 0xE0 then .inr ⟨[b], n - 0xC0, 1, 0x80, 0xBF⟩
  else if n == 0xE0 then .inr ⟨[b], 0, 2, 0xA0, 0xBF⟩
  else if n == 0xED then .inr ⟨[b], 0xD, 2, 0x80, 0x9F⟩
  else if n < 0xF0 then .inr ⟨[b], n - 0xE0, 2, 0x80, 0xBF⟩
  else if n == 0xF0 then .inr ⟨[b], 0, 3, 0x90, 0xBF⟩
  else if n < 0xF4 then .inr ⟨[b], n - 0xF0, 3, 0x80, 0xBF⟩
  else if n == 0xF4 then .inr ⟨[b], 4, 3, 0x80, 0x8F⟩
  else .inl (.bad [b])

/-- Divides bytes into pieces, `pending` being the sequence already begun. -/
def scan : Option Pending → Bytes → List Piece
  | none, [] => []
  | some p, [] => [.bad p.seen]
  | none, b :: bs =>
    match first b with
    | .inl piece => piece :: scan none bs
    | .inr p => scan (some p) bs
  | some p, b :: bs =>
    if p.low ≤ b.toNat ∧ b.toNat ≤ p.high then
      let bits := p.bits * 64 + (b.toNat - 0x80)
      if p.owed ≤ 1 then .char (Char.ofNat bits) :: scan none bs
      else scan (some ⟨p.seen ++ [b], bits, p.owed - 1, 0x80, 0xBF⟩) bs
    else
      .bad p.seen ::
        match first b with
        | .inl piece => piece :: scan none bs
        | .inr q => scan (some q) bs

/-- The division of bytes into characters and bytes that belong to none. -/
def pieces (bs : Bytes) : List Piece := scan none bs

/-- The character a piece is shown as. -/
def Piece.shown : Piece → Char
  | .char c => c
  | .bad _ => '�'

/-- The character a piece is, if it is one. -/
def Piece.char? : Piece → Option Char
  | .char c => some c
  | .bad _ => none

/-- Bytes as text, U+FFFD standing for what is not UTF-8. -/
def decodeLossy (bs : Bytes) : String := String.ofList ((pieces bs).map Piece.shown)

/-- Bytes as text, if they are UTF-8. -/
def decode? (bs : Bytes) : Option String := ((pieces bs).mapM Piece.char?).map String.ofList

end Utf8

end KeywordDocs
