/-!
Text from bytes. A strict reading refuses bytes that are no UTF-8; a lenient one writes the
replacement character for each longest run of bytes that begins a character without completing it.
-/
namespace Formwork.Text

/-- What the next byte of an unfinished character must satisfy. -/
structure Utf8Need where
  /-- How many bytes are still owed. -/
  owed : Nat
  /-- The bits gathered so far. -/
  bits : Nat
  /-- The least value of the next byte. -/
  least : Nat
  /-- The greatest value of the next byte. -/
  greatest : Nat

/-- What a first byte asks for: a finished character, more bytes, or `none` for a bad byte. -/
def Utf8Need.first (b : Nat) : Option (Char ⊕ Utf8Need) :=
  if b < 0x80 then some (.inl (Char.ofNat b))
  else if 0xc2 ≤ b && b ≤ 0xdf then some (.inr ⟨1, b - 0xc0, 0x80, 0xbf⟩)
  else if b == 0xe0 then some (.inr ⟨2, 0, 0xa0, 0xbf⟩)
  else if b == 0xed then some (.inr ⟨2, 0xd, 0x80, 0x9f⟩)
  else if 0xe1 ≤ b && b ≤ 0xef then some (.inr ⟨2, b - 0xe0, 0x80, 0xbf⟩)
  else if b == 0xf0 then some (.inr ⟨3, 0, 0x90, 0xbf⟩)
  else if 0xf1 ≤ b && b ≤ 0xf3 then some (.inr ⟨3, b - 0xf0, 0x80, 0xbf⟩)
  else if b == 0xf4 then some (.inr ⟨3, 4, 0x80, 0x8f⟩)
  else none

/-- The characters of a byte sequence, `none` standing for each fault. -/
def utf8Chars (pending : Option Utf8Need) : List UInt8 → List (Option Char)
  | [] => match pending with
    | some _ => [none]
    | none => []
  | byte :: rest =>
    let b := byte.toNat
    let start (before : List (Option Char)) : List (Option Char) :=
      match Utf8Need.first b with
      | some (.inl c) => before ++ some c :: utf8Chars none rest
      | some (.inr need) => before ++ utf8Chars (some need) rest
      | none => before ++ none :: utf8Chars none rest
    match pending with
    | none => start []
    | some need =>
      if need.least ≤ b && b ≤ need.greatest then
        let bits := need.bits * 64 + (b - 0x80)
        if need.owed ≤ 1 then some (Char.ofNat bits) :: utf8Chars none rest
        else utf8Chars (some ⟨need.owed - 1, bits, 0x80, 0xbf⟩) rest
      else start [none]

/-- Strict reading: `none` when some byte is out of place. -/
def decodeUtf8? (bytes : List UInt8) : Option (List Char) :=
  (utf8Chars none bytes).mapM id

/-- Lenient reading: each fault becomes the replacement character. -/
def decodeUtf8 (bytes : List UInt8) : List Char :=
  (utf8Chars none bytes).map (·.getD (Char.ofNat 0xfffd))

/-- Write every line end, whether CR LF, CR or LF, as LF. -/
def plainLines : List Char → List Char
  | [] => []
  | '\r' :: '\n' :: rest => '\n' :: plainLines rest
  | '\r' :: rest => '\n' :: plainLines rest
  | c :: rest => c :: plainLines rest

end Formwork.Text
