import ForwardTaint.Text.LowercaseTable

/-!
Lower-casing of text in any script.
-/

namespace ForwardTaint.Text

/-- The small form of one letter, taken alone; the dotted capital I keeps its dot as a mark. -/
def lowercaseChar (char : Char) : List Char :=
  let code := char.toNat
  if code < 0x80 then [char.toLower]
  else if code = 0x130 then ['i', Char.ofNat 0x307]
  else
    let inRun (run : Nat × Nat × Nat × Int) : Bool :=
      run.1 ≤ code && code ≤ run.2.1 && (code - run.1) % run.2.2.1 == 0
    match capitalRuns.find? inRun with
    | some run => [Char.ofNat (code + run.2.2.2).toNat]
    | none => [char]

/-- Whether the first of the characters that is not to be passed over is a letter with case. -/
def nextIsCased (chars : List Char) : Bool :=
  (chars.find? fun char => !caseIgnorable.contains char).any cased.contains

/-- The small forms of characters; `before` holds those already passed, last first.  A capital
sigma that ends a word takes its final form. -/
def lowercaseFrom (before : List Char) : List Char → List Char
  | [] => []
  | char :: rest =>
      let small :=
        if char == 'Σ' then
          if nextIsCased before && !nextIsCased rest then ['ς'] else ['σ']
        else lowercaseChar char
      small ++ lowercaseFrom (char :: before) rest

/-- The text in small letters. -/
def lowercase (text : String) : String := String.ofList (lowercaseFrom [] text.toList)

end ForwardTaint.Text
