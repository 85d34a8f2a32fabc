import ForwardTaint.Json.Parser
import ForwardTaint.Pattern.Syntax
import ForwardTaint.Text.Letters
import ForwardTaint.Text.WordClasses

/-!
Reading patterns.  The reader takes the characters from left to right; it holds the items of the
innermost group and, for each group that is still open, what stood before it.  Look-around and
references to groups are no patterns.
-/

namespace ForwardTaint

namespace Pattern

/-- How the characters of a pattern are understood. -/
structure Flags where
  ignoreCase : Bool
  multiLine : Bool
  dotAll : Bool
  verbose : Bool
  unicode : Bool

/-- The flags at the beginning of a pattern. -/
def Flags.initial : Flags := ⟨false, false, false, false, true⟩

/-- An alternative in the making: its items, last first, where a change of flags leaves a mark
that cannot be repeated. -/
abbrev Items := List (Option Pattern)

/-- The items as one pattern. -/
def ofItems (items : Items) : Pattern :=
  match items.filterMap id with
  | [] => .empty
  | last :: before => before.foldl (fun pattern item => .sequence item pattern) last

/-- What stands before an open group in the alternative that holds it. -/
structure OpenGroup where
  flags : Flags
  items : Items
  alternatives : List Pattern

/-- The state of the reader: the innermost group, the groups around it, and the names given. -/
structure Reader where
  flags : Flags
  items : Items
  alternatives : List Pattern
  groups : List OpenGroup
  names : List String

namespace Reader

/-- Adds an item to the innermost group. -/
def add (reader : Reader) (item : Pattern) : Reader :=
  { reader with items := some item :: reader.items }

/-- The innermost group as one pattern. -/
def close (reader : Reader) : Pattern :=
  reader.alternatives.foldl (fun pattern alternative => .choice alternative pattern)
    (ofItems reader.items)

end Reader

/-- Whether a character has a meaning of its own in patterns. -/
def isMeta (char : Char) : Bool := "\\.+*?()|[]\x7b\x7d^$#&-~".toList.contains char

/-- Whether a character may stand behind a backslash for itself. -/
def isEscapable (char : Char) : Bool :=
  isMeta char || (char.toNat < 0x80 && !char.isAlphanum && char != '<' && char != '>')

/-- The classes that a letter behind a backslash names. -/
def letterClass? (unicode : Bool) (letter : Char) : Option CharSet :=
  let pick (wide : Text.CharClass) (ascii : List (Nat × Nat)) : CharSet :=
    .charClass (if unicode then wide else ⟨ascii⟩)
  match letter.toLower with
  | 'd' => some (pick Text.digits [(0x30, 0x39)])
  | 's' => some (pick Text.blanks [(0x09, 0x0D), (0x20, 0x20)])
  | 'w' => some (pick Text.wordCharacters [(0x30, 0x39), (0x41, 0x5A), (0x5F, 0x5F), (0x61, 0x7A)])
  | _ => none

/-- The ASCII classes that have a name in brackets. -/
def asciiClasses : List (String × List (Nat × Nat)) :=
  [("alnum", [(0x30, 0x39), (0x41, 0x5A), (0x61, 0x7A)]), ("alpha", [(0x41, 0x5A), (0x61, 0x7A)]),
    ("ascii", [(0, 0x7F)]), ("blank", [(0x09, 0x09), (0x20, 0x20)]),
    ("cntrl", [(0, 0x1F), (0x7F, 0x7F)]), ("digit", [(0x30, 0x39)]), ("graph", [(0x21, 0x7E)]),
    ("lower", [(0x61, 0x7A)]), ("print", [(0x20, 0x7E)]),
    ("punct", [(0x21, 0x2F), (0x3A, 0x40), (0x5B, 0x60), (0x7B, 0x7E)]),
    ("space", [(0x09, 0x0D), (0x20, 0x20)]), ("upper", [(0x41, 0x5A)]),
    ("word", [(0x30, 0x39), (0x41, 0x5A), (0x5F, 0x5F), (0x61, 0x7A)]),
    ("xdigit", [(0x30, 0x39), (0x41, 0x46), (0x61, 0x66)])]

/-- The named properties of characters; blanks, hyphens, underscores and case do not count. -/
def property? (name : List Char) : Option CharSet :=
  let plain := String.ofList ((name.filter fun char =>
    char != ' ' && char != '-' && char != '_').map Char.toLower)
  match plain with
  | "l" | "letter" => some (.charClass Text.letters)
  | "lu" | "uppercaseletter" => some (.charClass Text.capitalLetters)
  | "ll" | "lowercaseletter" => some (.charClass Text.smallLetters)
  | "n" | "number" => some (.charClass Text.numbers)
  | "nd" | "decimalnumber" | "digit" => some (.charClass Text.digits)
  | "whitespace" | "space" | "wspace" => some (.charClass Text.blanks)
  | "any" => some (.range 0 0x10FFFF)
  | "ascii" => some (.range 0 0x7F)
  | "assigned" => none
  | _ => none

/-- What a backslash and the characters behind it stand for. -/
inductive Escape where
  | char (char : Char)
  | set (set : CharSet)
  | assertion (assertion : Assertion)

/-- The character of a code point. -/
def charOf? (code : Nat) : Option Char :=
  if code < 0xD800 ∨ 0xDFFF < code ∧ code < 0x110000 then some (Char.ofNat code) else none

/-- The character that hexadecimal digits write, `count` of them or any number in braces. -/
def hexChar? (count : Nat) (chars : List Char) : Option (Char × List Char) :=
  let value? (digits : List Char) : Option Nat :=
    digits.foldlM (fun value digit => (Json.hexValue? digit).map (16 * value + ·)) 0
  match chars with
  | '\x7b' :: rest =>
      let digits := rest.takeWhile (· != '\x7d')
      match rest.dropWhile (· != '\x7d') with
      | _ :: rest =>
          if digits.isEmpty then none
          else ((value? digits).bind charOf?).map fun char => (char, rest)
      | [] => none
  | _ =>
      let digits := chars.take count
      if digits.length < count then none
      else ((value? digits).bind charOf?).map fun char => (char, chars.drop count)

/-- The names of special word boundaries. -/
def boundaryNames : List (String × Assertion) :=
  [("start", .wordStart), ("end", .wordEnd), ("start-half", .wordStartHalf),
    ("end-half", .wordEndHalf)]

/-- A boundary of words, perhaps one with a name in braces behind it. -/
def boundary? (rest : List Char) : Option (Escape × List Char) :=
  let isNameChar (char : Char) : Bool :=
    char.isAlpha && char.toNat < 0x80 || char == '-'
  match rest with
  | '\x7b' :: named =>
      match named with
      | [] => none
      | first :: _ =>
          if isNameChar first then
            match named.dropWhile isNameChar with
            | '\x7d' :: rest =>
                (boundaryNames.lookup (String.ofList (named.takeWhile isNameChar))).map fun found =>
                  (.assertion found, rest)
            | _ => none
          else some (.assertion .wordBoundary, rest)
  | _ => some (.assertion .wordBoundary, rest)

/-- What stands behind a backslash. -/
def escape? (flags : Flags) : List Char → Option (Escape × List Char)
  | [] => none
  | letter :: rest =>
      let negative (set : CharSet) : CharSet := if letter.isUpper then .complement set else set
      match letter with
      | 'x' => (hexChar? 2 rest).map fun (char, rest) => (.char char, rest)
      | 'u' => (hexChar? 4 rest).map fun (char, rest) => (.char char, rest)
      | 'U' => (hexChar? 8 rest).map fun (char, rest) => (.char char, rest)
      | 'p' | 'P' =>
          if !flags.unicode then none
          else match rest with
            | '\x7b' :: rest =>
                let name := rest.takeWhile (· != '\x7d')
                match rest.dropWhile (· != '\x7d') with
                | [] => none
                | _ :: rest =>
                    let (inverted, name) := match name with
                      | '^' :: name => (true, name)
                      | _ => (false, name)
                    (property? name).map fun set =>
                      (.set (negative (if inverted then .complement set else set)), rest)
            | name :: rest => (property? [name]).map fun set => (.set (negative set), rest)
            | [] => none
      | 'd' | 's' | 'w' => (letterClass? flags.unicode letter).map fun set => (.set set, rest)
      | 'D' | 'S' | 'W' =>
          if flags.unicode then
            (letterClass? true letter).map fun set => (.set (.complement set), rest)
          else none
      | 'a' => some (.char '\x07', rest)
      | 'f' => some (.char '\x0c', rest)
      | 't' => some (.char '\t', rest)
      | 'n' => some (.char '\n', rest)
      | 'r' => some (.char '\r', rest)
      | 'v' => some (.char '\x0b', rest)
      | 'A' => some (.assertion .textStart, rest)
      | 'z' => some (.assertion .textEnd, rest)
      | 'b' => boundary? rest
      | 'B' => some (.assertion .wordInside, rest)
      | '<' => some (.assertion .wordStart, rest)
      | '>' => some (.assertion .wordEnd, rest)
      | char => if isEscapable char then some (.char char, rest) else none

/-- A character by itself. -/
def literal (flags : Flags) (char : Char) : CharSet :=
  if flags.ignoreCase then .folded (.single char) else .single char

/-- An operation on two sets in brackets. -/
inductive SetOperation where
  | intersection
  | difference
  | symmetricDifference

namespace SetOperation

def apply (operation : SetOperation) (first second : CharSet) : CharSet :=
  match operation with
  | .intersection => .inter first second
  | .difference => .inter first (.complement second)
  | .symmetricDifference =>
      .union (.inter first (.complement second)) (.inter second (.complement first))

/-- The operation that two characters write. -/
def ofChars? (first second : Char) : Option SetOperation :=
  if first != second then none
  else match first with
    | '&' => some .intersection
    | '-' => some .difference
    | '~' => some .symmetricDifference
    | _ => none

end SetOperation

/-- Brackets that are still open: whether they are negated, the members so far, and an operation
that waits for its second operand. -/
structure OpenBracket where
  negated : Bool
  members : CharSet
  pending : Option (CharSet × SetOperation)

namespace OpenBracket

/-- The set of the members with a waiting operation applied. -/
def operand (bracket : OpenBracket) : CharSet :=
  match bracket.pending with
  | some (first, operation) => operation.apply first bracket.members
  | none => bracket.members

/-- The set of the brackets. -/
def close (flags : Flags) (bracket : OpenBracket) : CharSet :=
  let set := if flags.ignoreCase then .folded bracket.operand else bracket.operand
  if bracket.negated then .complement set else set

/-- Adds members. -/
def add (bracket : OpenBracket) (set : CharSet) : OpenBracket :=
  { bracket with members := .union bracket.members set }

/-- Takes an operation. -/
def operate (bracket : OpenBracket) (operation : SetOperation) : OpenBracket :=
  { bracket with members := .empty, pending := some (bracket.operand, operation) }

end OpenBracket

/-- Passes over blanks where they do not count. -/
def skipBlanks (flags : Flags) (chars : List Char) : List Char :=
  if flags.verbose then chars.dropWhile Text.blanks.contains else chars

/-- Opens brackets: a circumflex negates, hyphens at the beginning and a closing bracket before
any member stand for themselves. -/
def openBracket (flags : Flags) (chars : List Char) : OpenBracket × List Char :=
  let chars := skipBlanks flags chars
  let (negated, chars) := match chars with
    | '^' :: rest => (true, skipBlanks flags rest)
    | _ => (false, chars)
  let hyphens := chars.takeWhile (· == '-')
  let chars := chars.dropWhile (· == '-')
  let bracket : OpenBracket := ⟨negated, if hyphens.isEmpty then .empty else .single '-', none⟩
  match chars with
  | ']' :: rest => if hyphens.isEmpty then (bracket.add (.single ']'), rest) else (bracket, chars)
  | _ => (bracket, chars)

/-- A named ASCII class behind an opening bracket. -/
def asciiClass? (chars : List Char) : Option (CharSet × List Char) :=
  match chars with
  | ':' :: rest =>
      let (inverted, rest) := match rest with
        | '^' :: rest => (true, rest)
        | _ => (false, rest)
      let name := rest.takeWhile (· != ':')
      match rest.dropWhile (· != ':') with
      | ':' :: ']' :: rest =>
          (asciiClasses.lookup (String.ofList name)).map fun ranges =>
            let set : CharSet := .charClass ⟨ranges⟩
            (if inverted then .complement set else set, rest)
      | _ => none
  | _ => none

/-- One member of brackets: a character that may begin a range, or a set. -/
def member? (flags : Flags) : List Char → Option ((Char ⊕ CharSet) × List Char)
  | [] => none
  | '\\' :: rest =>
      match escape? flags rest with
      | some (.char char, rest) => some (.inl char, rest)
      | some (.set set, rest) => some (.inr set, rest)
      | _ => none
  | char :: rest => some (.inl char, rest)

/-- A member or a range of characters. -/
def range? (flags : Flags) (chars : List Char) : Option (CharSet × List Char) := do
  let (first, chars) ← member? flags chars
  let chars := skipBlanks flags chars
  let alone : CharSet := match first with
    | .inl char => .single char
    | .inr set => set
  match chars with
  | '-' :: rest =>
      match skipBlanks flags rest with
      | [] => none
      | ']' :: _ | '-' :: _ => some (alone, chars)
      | rest =>
          let (last, rest) ← member? flags rest
          match first, last with
          | .inl low, .inl high =>
              if low ≤ high then some (.range low.toNat high.toNat, rest) else none
          | _, _ => none
  | _ => some (alone, chars)

/-- The set that brackets write; `brackets` are those still open, innermost first. -/
def brackets? (flags : Flags) : Nat → List OpenBracket → List Char → Option (CharSet × List Char)
  | 0, _, _ => none
  | fuel + 1, brackets, chars =>
      match skipBlanks flags chars, brackets with
      | _, [] => none
      | [], _ => none
      | ']' :: rest, [bracket] => some (bracket.close flags, rest)
      | ']' :: rest, bracket :: outer :: more =>
          brackets? flags fuel (outer.add (bracket.close flags) :: more) rest
      | '[' :: rest, bracket :: more =>
          match asciiClass? rest with
          | some (set, rest) => brackets? flags fuel (bracket.add set :: more) rest
          | none =>
              let (inner, rest) := openBracket flags rest
              brackets? flags fuel (inner :: bracket :: more) rest
      | first :: second :: rest, bracket :: more =>
          match SetOperation.ofChars? first second with
          | some operation => brackets? flags fuel (bracket.operate operation :: more) rest
          | none =>
              match range? flags (first :: second :: rest) with
              | some (set, rest) => brackets? flags fuel (bracket.add set :: more) rest
              | none => none
      | [_], _ => none

/-- The number that decimal digits between blanks write, which fits 32 bits. -/
def decimal? (chars : List Char) : Option (Nat × List Char) :=
  let chars := chars.dropWhile Text.blanks.contains
  let digits := chars.takeWhile Char.isDigit
  let value := Json.digitsValue digits
  if digits.isEmpty || UInt32.size ≤ value then none
  else some (value, (chars.dropWhile Char.isDigit).dropWhile Text.blanks.contains)

/-- The bounds of a counted repetition behind its opening brace. -/
def bounds? (chars : List Char) : Option ((Nat × Option Nat) × List Char) := do
  let (least, chars) ← decimal? chars
  match chars with
  | '\x7d' :: rest => return ((least, some least), rest)
  | ',' :: '\x7d' :: rest => return ((least, none), rest)
  | ',' :: rest =>
      let (greatest, rest) ← decimal? rest
      match rest with
      | '\x7d' :: rest => if least ≤ greatest then some ((least, some greatest), rest) else none
      | _ => none
  | _ => none

/-- Repeats the last item; a mark that makes the repetition reluctant has no effect. -/
def repeatLast? (reader : Reader) (least : Nat) (greatest : Option Nat) (rest : List Char) :
    Option (Reader × List Char) :=
  match reader.items with
  | some item :: items =>
      let rest := match skipBlanks reader.flags rest with
        | '?' :: rest => rest
        | rest => rest
      some ({ reader with items := some (.repeated least greatest item) :: items }, rest)
  | _ => none

/-- The flags after a change; the second component tells whether flags are being switched off. -/
def changeFlag? (flags : Flags) (on : Bool) (letter : Char) : Option Flags :=
  match letter with
  | 'i' => some { flags with ignoreCase := on }
  | 'm' => some { flags with multiLine := on }
  | 's' => some { flags with dotAll := on }
  | 'x' => some { flags with verbose := on }
  | 'u' => some { flags with unicode := on }
  | 'U' | 'R' => some flags
  | _ => none

/-- The flags that letters change, each letter at most once and at most one minus among them. -/
def changeFlags? (flags : Flags) (letters : List Char) : Option Flags :=
  if letters.eraseDups.length != letters.length || letters.getLast? == some '-' then none
  else
    let on := letters.takeWhile (· != '-')
    let off := (letters.dropWhile (· != '-')).drop 1
    do off.foldlM (changeFlag? · false ·) (← on.foldlM (changeFlag? · true ·) flags)

/-- Whether characters can be the name of a group. -/
def isGroupName : List Char → Bool
  | [] => false
  | first :: rest =>
      (first.isAlpha || first == '_' || 0x80 ≤ first.toNat && Text.letters.contains first)
        && rest.all fun char =>
          char.isAlphanum || "_.[]".toList.contains char
            || 0x80 ≤ char.toNat && Text.wordCharacters.contains char

/-- The greatest number of groups around each other. -/
def maxGroupDepth : Nat := 250

/-- Opens a group with given flags. -/
def openGroup? (reader : Reader) (flags : Flags) (rest : List Char) : Option (Reader × List Char) :=
  if maxGroupDepth ≤ reader.groups.length then none
  else some (⟨flags, [], [], ⟨reader.flags, reader.items, reader.alternatives⟩ :: reader.groups,
    reader.names⟩, rest)

/-- Opens a group of a new name. -/
def openNamed? (reader : Reader) (chars : List Char) : Option (Reader × List Char) :=
  let name := chars.takeWhile (· != '>')
  let text := String.ofList name
  match chars.dropWhile (· != '>') with
  | _ :: rest =>
      if isGroupName name && !reader.names.contains text then
        openGroup? { reader with names := text :: reader.names } reader.flags rest
      else none
  | [] => none

/-- What follows an opening parenthesis: a group, or a change of flags. -/
def parenthesis? (reader : Reader) (chars : List Char) : Option (Reader × List Char) :=
  match skipBlanks reader.flags chars with
  | '?' :: 'P' :: '<' :: rest => openNamed? reader rest
  | '?' :: '<' :: rest => openNamed? reader rest
  | '?' :: rest =>
      let isEnd (char : Char) : Bool := char == ':' || char == ')'
      let letters := rest.takeWhile (!isEnd ·)
      match rest.dropWhile (!isEnd ·) with
      | ':' :: rest => (changeFlags? reader.flags letters).bind fun flags =>
          openGroup? reader flags rest
      | ')' :: rest =>
          if letters.isEmpty then none
          else (changeFlags? reader.flags letters).map fun flags =>
            ({ reader with flags, items := none :: reader.items }, rest)
      | _ => none
  | chars => openGroup? reader reader.flags chars

/-- What is asked at the beginning of a line or text, and at the end. -/
def anchor (flags : Flags) (atStart : Bool) : Pattern :=
  .assertion (match flags.multiLine, atStart with
    | true, true => .lineStart
    | true, false => .lineEnd
    | false, true => .textStart
    | false, false => .textEnd)

/-- Takes the next item of a pattern. -/
def step? (reader : Reader) (char : Char) (rest : List Char) : Option (Reader × List Char) :=
  match char with
  | '(' => parenthesis? reader rest
  | ')' =>
      match reader.groups with
      | [] => none
      | group :: groups =>
          some (⟨group.flags, some reader.close :: group.items, group.alternatives, groups,
            reader.names⟩, rest)
  | '|' => some ({ reader with
      items := [], alternatives := ofItems reader.items :: reader.alternatives }, rest)
  | '[' =>
      let (bracket, left) := openBracket reader.flags rest
      (brackets? reader.flags (rest.length + 1) [bracket] left).map fun (set, rest) =>
        (reader.add (.oneOf set), rest)
  | '?' => repeatLast? reader 0 (some 1) rest
  | '*' => repeatLast? reader 0 none rest
  | '+' => repeatLast? reader 1 none rest
  | '\x7b' => (bounds? rest).bind fun (bounds, rest) => repeatLast? reader bounds.1 bounds.2 rest
  | '\\' =>
      (escape? reader.flags rest).map fun (escape, rest) =>
        let item : Pattern := match escape with
          | .char char => .oneOf (literal reader.flags char)
          | .set set => .oneOf set
          | .assertion asked => .assertion asked
        (reader.add item, rest)
  | '.' =>
      if !reader.flags.unicode then none
      else
        let any : CharSet := .range 0 0x10FFFF
        some (reader.add (.oneOf
          (if reader.flags.dotAll then any else .inter any (.complement (.single '\n')))), rest)
  | '^' => some (reader.add (anchor reader.flags true), rest)
  | '$' => some (reader.add (anchor reader.flags false), rest)
  | char => some (reader.add (.oneOf (literal reader.flags char)), rest)

/-- Takes items until the text ends; each of them uses up a character at least. -/
def read? : Nat → Reader → List Char → Option Pattern
  | 0, _, _ => none
  | fuel + 1, reader, chars =>
      match chars with
      | [] => if reader.groups.isEmpty then some reader.close else none
      | char :: rest =>
          if reader.flags.verbose && Text.blanks.contains char then read? fuel reader rest
          else if reader.flags.verbose && char == '#' then
            read? fuel reader (rest.dropWhile (· != '\n'))
          else match step? reader char rest with
            | some (reader, rest) => read? fuel reader rest
            | none => none

/-- Reads a pattern. -/
def ofText? (text : String) : Option Pattern :=
  read? (text.toList.length + 1) ⟨.initial, [], [], [], []⟩ text.toList

end Pattern

end ForwardTaint
