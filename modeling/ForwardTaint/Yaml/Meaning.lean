import ForwardTaint.Json.Parser
import ForwardTaint.Yaml.Value

/-!
What unquoted words mean: nothing, truth values and numbers.  Integers have a sign and digits, in
base ten without leading zeros, or in another base behind its mark.
-/

namespace ForwardTaint.Yaml

/-- Whether a word means that there is no value. -/
def isNullWord (word : String) : Bool :=
  word == "~" || word == "null" || word == "Null" || word == "NULL"

/-- The truth value that a word means. -/
def booleanWord? (word : String) : Option Bool :=
  if word == "true" || word == "True" || word == "TRUE" then some true
  else if word == "false" || word == "False" || word == "FALSE" then some false
  else none

/-- The number that digits of a base write. -/
def digitsIn? (base : Nat) (digits : List Char) : Option Nat :=
  if digits.isEmpty then none
  else digits.foldlM (fun value digit =>
    match Json.hexValue? digit with
    | some digit => if digit < base then some (base * value + digit) else none
    | none => none) 0

/-- The characters of a number without its sign. -/
def withoutSign : List Char → List Char
  | '+' :: rest | '-' :: rest => rest
  | chars => chars

/-- Whether a word is made of digits with a leading zero, which is no number. -/
def hasLeadingZero (chars : List Char) : Bool :=
  match withoutSign chars with
  | '0' :: next :: rest => (next :: rest).all Char.isDigit
  | _ => false

/-- The number that the characters behind a sign mean. -/
def magnitude? : List Char → Option Nat
  | '0' :: 'x' :: digits => digitsIn? 16 digits
  | '0' :: 'o' :: digits => digitsIn? 8 digits
  | '0' :: 'b' :: digits => digitsIn? 2 digits
  | digits => if hasLeadingZero digits then none else digitsIn? 10 digits

/-- The unsigned number that a word means. -/
def naturalWord? (word : String) : Option Nat :=
  match word.toList with
  | '+' :: rest => magnitude? rest
  | chars => magnitude? chars

/-- Whether a word means an integer of at most 128 bits. -/
def isIntegerWord (word : String) : Bool :=
  match word.toList with
  | '-' :: rest => (magnitude? rest).any (· ≤ Nat.pow 2 127)
  | _ => (naturalWord? word).any (· < Nat.pow 2 128)

/-- The parts of a number with an optional fraction and exponent. -/
def decimalParts? (chars : List Char) : Option Json.NumberText :=
  let whole := chars.takeWhile Char.isDigit
  let rest := chars.dropWhile Char.isDigit
  let (fraction, rest) := match rest with
    | '.' :: rest => (rest.takeWhile Char.isDigit, rest.dropWhile Char.isDigit)
    | _ => ([], rest)
  if whole.isEmpty && fraction.isEmpty then none
  else match rest with
    | [] => some ⟨false, whole, fraction, none⟩
    | mark :: rest =>
        if mark == 'e' || mark == 'E' then
          (Json.NumberText.exponentOf? rest).map fun exponent =>
            ⟨false, whole, fraction, some exponent⟩
        else none

/-- Whether a word means a number with a fraction or an exponent, or one of the special values of
floating point. -/
def isDecimalWord (word : String) : Bool :=
  let isInfinity (word : String) := word == ".inf" || word == ".Inf" || word == ".INF"
  let isNotANumber := word == ".nan" || word == ".NaN" || word == ".NAN"
  let unsigned := withoutSign word.toList
  isInfinity (String.ofList unsigned) || isNotANumber
    || (!hasLeadingZero word.toList && (decimalParts? unsigned).any Json.NumberText.isFinite)

/-- Whether there is no value: nothing is written, or a word that means nothing.  Behind a tag only
such a word will do, and a tag that demands it allows nothing else. -/
def isNull? : Yaml → Option Bool
  | .scalar .plain text => some (text.isEmpty || isNullWord text)
  | .scalar (.tagged true) text => if isNullWord text then some true else none
  | _ => some false

/-- The text of a scalar, whatever it would mean without quotes. -/
def string? : Yaml → Option String
  | .scalar _ text => some text
  | _ => none

/-- A truth value. -/
def boolean? : Yaml → Option Bool
  | .scalar form text => if form.isUnquoted then booleanWord? text else none
  | _ => none

/-- An unsigned integer below a bound. -/
def natBelow? (bound : Nat) : Yaml → Option Nat
  | .scalar form text => if form.isUnquoted then (naturalWord? text).filter (· < bound) else none
  | _ => none

/-- An unsigned integer of 32 bits. -/
def word32? (yaml : Yaml) : Option UInt32 := (yaml.natBelow? UInt32.size).map UInt32.ofNat

/-- An unsigned integer of 64 bits. -/
def word64? (yaml : Yaml) : Option UInt64 := (yaml.natBelow? UInt64.size).map UInt64.ofNat

/-- A number of 64 bits, such as an index or a count. -/
def count? (yaml : Yaml) : Option Nat := yaml.natBelow? UInt64.size

/-- Whether nothing is written for the value. -/
def isEmpty : Yaml → Bool
  | .scalar form text => form.isUnquoted && text.isEmpty
  | _ => false

/-- Reads every item of a sequence; where nothing is written there are none. -/
def list? {Value : Type} (decode : Yaml → Option Value) (yaml : Yaml) : Option (List Value) :=
  match yaml with
  | .sequence items => items.mapM decode
  | _ => if yaml.isEmpty then some [] else none

end ForwardTaint.Yaml
