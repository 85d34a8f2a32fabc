import ForwardTaint.Json.Value

/-!
Numbers in JSON text.  A number is an integer when it is written as one that fits 64 bits; any
other number in the range of 64-bit floating point is kept as text, and one beyond it stands for no
value.
-/

namespace ForwardTaint.Json

/-- The number that decimal digits write. -/
def digitsValue (digits : List Char) : Nat :=
  digits.foldl (fun value digit => 10 * value + (digit.toNat - '0'.toNat)) 0

/-- The parts of a written number; the exponent is negative when its flag is set. -/
structure NumberText where
  negative : Bool
  whole : List Char
  fraction : List Char
  exponent : Option (Bool × List Char)

namespace NumberText

/-- The digits of an exponent with its sign. -/
def exponentOf? (chars : List Char) : Option (Bool × List Char) :=
  let (negative, digits) := match chars with
    | '-' :: rest => (true, rest)
    | '+' :: rest => (false, rest)
    | _ => (false, chars)
  if digits.isEmpty || !digits.all Char.isDigit then none else some (negative, digits)

/-- The fraction and exponent that follow the whole part. -/
def tailOf? (negative : Bool) (whole chars : List Char) : Option NumberText :=
  let isExponentMark (char : Char) := char == 'e' || char == 'E'
  let withExponent (fraction rest : List Char) : Option NumberText :=
    match rest with
    | [] => some ⟨negative, whole, fraction, none⟩
    | mark :: rest =>
        if isExponentMark mark then
          (exponentOf? rest).map fun exponent => ⟨negative, whole, fraction, some exponent⟩
        else none
  match chars with
  | '.' :: rest =>
      let fraction := rest.takeWhile Char.isDigit
      if fraction.isEmpty then none else withExponent fraction (rest.dropWhile Char.isDigit)
  | _ => withExponent [] chars

/-- The parts of a number without leading zeros. -/
def ofChars? (chars : List Char) : Option NumberText :=
  let (negative, chars) := match chars with
    | '-' :: rest => (true, rest)
    | _ => (false, chars)
  match chars with
  | '0' :: rest => tailOf? negative ['0'] rest
  | _ =>
      let whole := chars.takeWhile Char.isDigit
      if whole.isEmpty then none else tailOf? negative whole (chars.dropWhile Char.isDigit)

/-- All digits before the exponent, as one number. -/
def digits (number : NumberText) : Nat := digitsValue (number.whole ++ number.fraction)

/-- The power of ten that `digits` is scaled by. -/
def scale (number : NumberText) : Int :=
  let exponent : Int := match number.exponent with
    | none => 0
    | some (negative, digits) => if negative then -digitsValue digits else digitsValue digits
  exponent - number.fraction.length

/-- Whether the number is below the least one that rounds to infinity in 64-bit floating point;
numbers far from that bound are settled by their length. -/
def isFinite (number : NumberText) : Bool :=
  let digitCount : Int := number.whole.length + number.fraction.length
  if number.digits = 0 then true
  else if number.scale + digitCount < 300 then true
  else if 400 < number.scale then false
  else
    let bound := Nat.pow 2 1024 - Nat.pow 2 970
    if 0 ≤ number.scale then number.digits * Nat.pow 10 number.scale.toNat < bound
    else number.digits < bound * Nat.pow 10 (-number.scale).toNat

/-- The value of the written number. -/
def toJson (number : NumberText) (text : String) : Json :=
  let size := digitsValue number.whole
  let fits := if number.negative then 0 < size ∧ size ≤ UInt64.size / 2 else size < UInt64.size
  if number.fraction.isEmpty ∧ number.exponent.isNone ∧ fits then
    .integer (if number.negative then -size else size)
  else if number.isFinite then .decimal text
  else .unusable

end NumberText

end ForwardTaint.Json
