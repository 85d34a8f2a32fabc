import ForwardTaint.Json.Parser

/-!
Percent-decoding.  A run of escapes gives a run of bytes, which is read as UTF-8; each maximal
beginning of a character that does not go on gives one replacement character.
-/

namespace ForwardTaint.Text

/-- A character of several bytes that has begun: its code so far, the number of bytes that are
left, and the bounds of the next one. -/
structure PartialChar where
  code : Nat
  left : Nat
  low : Nat
  high : Nat

/-- What a byte at the beginning of a character gives: a whole character, one that has begun, or
nothing. -/
def leadingByte (byte : Nat) : Option (Char ⊕ PartialChar) :=
  if byte < 0x80 then some (.inl (Char.ofNat byte))
  else if byte < 0xC2 then none
  else if byte < 0xE0 then some (.inr ⟨byte - 0xC0, 1, 0x80, 0xBF⟩)
  else if byte < 0xF0 then
    some (.inr ⟨byte - 0xE0, 2, if byte = 0xE0 then 0xA0 else 0x80,
      if byte = 0xED then 0x9F else 0xBF⟩)
  else if byte < 0xF5 then
    some (.inr ⟨byte - 0xF0, 3, if byte = 0xF0 then 0x90 else 0x80,
      if byte = 0xF4 then 0x8F else 0xBF⟩)
  else none

/-- The character that stands for bytes that are no UTF-8. -/
def replacement : Char := '\uFFFD'

/-- The characters of bytes read as UTF-8, going on with a character that has begun. -/
def lossyFrom : Option PartialChar → List Nat → List Char
  | none, [] => []
  | some _, [] => [replacement]
  | some begun, byte :: rest =>
      if begun.low ≤ byte ∧ byte ≤ begun.high then
        let code := begun.code * 64 + (byte - 0x80)
        if begun.left ≤ 1 then Char.ofNat code :: lossyFrom none rest
        else lossyFrom (some ⟨code, begun.left - 1, 0x80, 0xBF⟩) rest
      else match leadingByte byte with
        | none => replacement :: replacement :: lossyFrom none rest
        | some (.inl char) => replacement :: char :: lossyFrom none rest
        | some (.inr next) => replacement :: lossyFrom (some next) rest
  | none, byte :: rest =>
      match leadingByte byte with
      | none => replacement :: lossyFrom none rest
      | some (.inl char) => char :: lossyFrom none rest
      | some (.inr next) => lossyFrom (some next) rest

/-- The characters of bytes read as UTF-8. -/
def lossy (bytes : List Nat) : List Char := lossyFrom none bytes

/-- The byte that two hexadecimal digits write. -/
def hexByte? (first second : Char) : Option Nat := do
  return (← Json.hexValue? first) * 16 + (← Json.hexValue? second)

/-- One pass of decoding; `bytes` holds the bytes of the escapes just before. -/
def percentDecodeFrom (bytes : List Nat) : List Char → List Char
  | [] => lossy bytes
  | '%' :: first :: second :: rest =>
      match hexByte? first second with
      | some byte => percentDecodeFrom (bytes ++ [byte]) rest
      | none => lossy bytes ++ '%' :: percentDecodeFrom [] (first :: second :: rest)
  | char :: rest => lossy bytes ++ char :: percentDecodeFrom [] rest

/-- One pass of decoding. -/
def percentDecode (chars : List Char) : List Char := percentDecodeFrom [] chars

/-- Decodes until nothing changes, at most `passes` times. -/
def percentDecodeTimes : Nat → List Char → List Char
  | 0, chars => chars
  | passes + 1, chars =>
      let next := percentDecode chars
      if next = chars then chars else percentDecodeTimes passes next

/-- Decodes until nothing changes; encodings nested more than eight times stay. -/
def percentDecodeFully (chars : List Char) : List Char := percentDecodeTimes 8 chars

end ForwardTaint.Text
