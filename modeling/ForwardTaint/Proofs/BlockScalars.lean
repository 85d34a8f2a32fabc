import ForwardTaint.Proofs.PlainScalars

/-!
Block scalars are read as they are written.  Behind the indentation every character and every line break
of the text counts; the marks of a block say what its first line would not show, and how many of the line
breaks at its end belong to the text.
-/

namespace ForwardTaint.Yaml

namespace BlockText

/-- What was read of a block with all line breaks behind it, last character first. -/
def meaning (text : BlockText) : List Char := text.emptyLines ++ text.lineBreak ++ text.done

/-- The block is indented by so many columns and being read inside of a line, or at the beginning of
one. -/
structure IsAt (text : BlockText) (indent : Nat) (atStart : Bool) : Prop where
  indent : text.indent = some indent
  inLine : text.inLine = !atStart
  column : atStart = true → text.column = 0
  noBreaks : atStart = false → text.emptyLines = [] ∧ text.lineBreak = []

end BlockText

variable (least : Nat) (chomping : Chomping)

theorem readBlock_space {text : BlockText} (notInLine : text.inLine = false)
    (margin : ∀ indent ∈ text.indent, text.column < indent) (rest : List Char) :
    readBlock false least chomping text (' ' :: rest) =
      readBlock false least chomping
        { text with widest := max text.widest (text.column + 1), column := text.column + 1 } rest := by
  have inMargin : text.indent.all (text.column < ·) = true := by
    cases indent : text.indent with
    | none => rfl
    | some columns => simpa using margin columns indent
  simp [readBlock, notInLine, inMargin]

/-- Spaces of the indentation are passed over, and remembered as long as it is not known. -/
theorem readBlock_indentation {text : BlockText} (notInLine : text.inLine = false)
    (columns : Nat) (margin : ∀ indent ∈ text.indent, text.column + columns ≤ indent)
    (rest : List Char) :
    ∃ widest, text.widest ≤ widest ∧ text.column + columns ≤ max widest text.column ∧
      widest ≤ max text.widest (text.column + columns) ∧
      readBlock false least chomping text (List.replicate columns ' ' ++ rest) =
        readBlock false least chomping { text with widest, column := text.column + columns } rest := by
  induction columns generalizing text with
  | zero => exact ⟨text.widest, by omega, by omega, by omega, rfl⟩
  | succ columns inductionHypothesis =>
      have first := readBlock_space least chomping notInLine
        (fun indent isIndent => by have := margin indent isIndent; omega)
        (List.replicate columns ' ' ++ rest)
      obtain ⟨widest, above, wide, narrow, later⟩ := @inductionHypothesis
        { text with widest := max text.widest (text.column + 1), column := text.column + 1 }
        notInLine (fun indent isIndent => by have := margin indent isIndent; simp only; omega)
      simp only at above wide narrow later
      refine ⟨widest, by omega, by omega, by omega, ?_⟩
      rw [List.replicate_succ, List.cons_append, first, later]
      simp only [Nat.add_assoc, Nat.add_comm 1]

/-- A line break is kept for what follows. -/
theorem readBlock_break {text : BlockText} {indent : Nat} {atStart : Bool}
    (isAt : text.IsAt indent atStart) {char : Char} (isBreak_ : isBreak char = true)
    (rest : List Char) :
    ∃ after : BlockText, after.IsAt indent true ∧ after.meaning = char :: text.meaning ∧
      (atStart = false → after.emptyLines = [] ∧ after.done = text.meaning) ∧
      readBlock false least chomping text (char :: rest) =
        readBlock false least chomping after rest := by
  cases atStart with
  | true =>
      have notSpace : char ≠ ' ' ∧ char ≠ '\t' := by
        constructor <;> (rintro rfl; exact absurd isBreak_ (by decide))
      refine ⟨{ text with
        emptyLines := char :: text.emptyLines, line := text.line + 1, column := 0 },
        ?_, ?_, by simp, ?_⟩
      · exact ⟨isAt.indent, isAt.inLine, fun _ => rfl, by simp⟩
      · rfl
      · simp [readBlock, isAt.inLine, notSpace, isBreak_]
  | false =>
      obtain ⟨emptyLines, lineBreak⟩ := isAt.noBreaks rfl
      refine ⟨{ text with
        lineBreak := [char], inLine := false, line := text.line + 1, column := 0 }, ?_, ?_, ?_, ?_⟩
      · exact ⟨isAt.indent, rfl, fun _ => rfl, by simp⟩
      · simp [BlockText.meaning, emptyLines, lineBreak]
      · exact fun _ => ⟨emptyLines, by simp [BlockText.meaning, emptyLines, lineBreak]⟩
      · simp [readBlock, isAt.inLine, isBreak_]

namespace BlockText

/-- The block behind the first character of a line. -/
def enter (text : BlockText) (indent widest : Nat) (char : Char) : BlockText where
  indent := some indent
  widest := widest
  done := char :: text.meaning
  lineBreak := []
  emptyLines := []
  blankLine := isBlank char
  inLine := true
  line := text.line
  column := indent + 1

theorem isAt_enter (text : BlockText) (indent widest : Nat) (char : Char) :
    (text.enter indent widest char).IsAt indent false :=
  ⟨rfl, rfl, by simp, fun _ => ⟨rfl, rfl⟩⟩

theorem meaning_enter (text : BlockText) (indent widest : Nat) (char : Char) :
    (text.enter indent widest char).meaning = char :: text.meaning := rfl

end BlockText

/-- A character behind the indentation belongs to the text. -/
theorem readBlock_char {text : BlockText} {indent : Nat} {atStart : Bool}
    (isAt : text.IsAt indent atStart) {char : Char} (notBreak : isBreak char = false)
    (rest : List Char) :
    ∃ after : BlockText, after.IsAt indent false ∧ after.meaning = char :: text.meaning ∧
      readBlock false least chomping text
          ((if atStart then List.replicate indent ' ' else []) ++ char :: rest) =
        readBlock false least chomping after rest := by
  cases atStart with
  | true =>
      have column := isAt.column rfl
      have notInLine : text.inLine = false := isAt.inLine
      obtain ⟨widest, -, -, -, read⟩ := readBlock_indentation least chomping notInLine indent
        (fun other isIndent => by
          have := Option.some.inj (isAt.indent.symm.trans isIndent)
          omega) (char :: rest)
      refine ⟨text.enter indent widest char, text.isAt_enter _ _ _, text.meaning_enter _ _ _, ?_⟩
      rw [if_pos rfl, read]
      simp [readBlock, notInLine, isAt.indent, column, notBreak, BlockText.join, BlockText.enter,
        BlockText.meaning]
  | false =>
      obtain ⟨emptyLines, lineBreak⟩ := isAt.noBreaks rfl
      refine ⟨{ text with done := char :: text.done, column := text.column + 1 }, ?_, ?_, ?_⟩
      · exact ⟨isAt.indent, isAt.inLine, by simp, isAt.noBreaks⟩
      · simp [BlockText.meaning, emptyLines, lineBreak]
      · simp [readBlock, isAt.inLine, notBreak]

/-- The first line shows the indentation if it begins with text. -/
theorem readBlock_firstChar {text : BlockText} (notInLine : text.inLine = false)
    (unknown : text.indent = none) (narrow : text.widest = 0) (atStart : text.column = 0)
    {indent : Nat} (deep : least ≤ indent) {char : Char} (notBlank : isBlank char = false)
    (notBreak : isBreak char = false) (rest : List Char) :
    ∃ after : BlockText, after.IsAt indent false ∧ after.meaning = char :: text.meaning ∧
      readBlock false least chomping text (List.replicate indent ' ' ++ char :: rest) =
        readBlock false least chomping after rest := by
  obtain ⟨widest, -, wide, notWider, read⟩ := readBlock_indentation least chomping notInLine indent
    (fun other isIndent => by simp [unknown] at isIndent) (char :: rest)
  have shown : max widest least = indent := by omega
  have notSpace : char ≠ ' ' ∧ char ≠ '\t' := by
    constructor <;> (rintro rfl; exact absurd notBlank (by decide))
  refine ⟨text.enter indent widest char, text.isAt_enter _ _ _, text.meaning_enter _ _ _, ?_⟩
  rw [read]
  simp [readBlock, notInLine, unknown, atStart, notBreak, notSpace, shown, BlockText.join,
    BlockText.enter, BlockText.meaning]

theorem indentLines_break {indent : Nat} {atStart : Bool} {char : Char}
    (isBreak_ : isBreak char = true) (rest : List Char) :
    indentLines indent atStart (char :: rest) = char :: indentLines indent true rest := by
  rw [indentLines, if_pos isBreak_]

theorem indentLines_char {indent : Nat} {atStart : Bool} {char : Char}
    (notBreak : isBreak char = false) (rest : List Char) :
    indentLines indent atStart (char :: rest) =
      (if atStart then List.replicate indent ' ' else []) ++ char :: indentLines indent false rest := by
  rw [indentLines, if_neg (by simp [notBreak])]
  cases atStart <;> rfl

theorem indentLines_append_break {indent : Nat} {last : Char} (isBreak_ : isBreak last = true)
    {chars : List Char} {atStart : Bool} :
    indentLines indent atStart (chars ++ [last]) = indentLines indent atStart chars ++ [last] := by
  induction chars generalizing atStart with
  | nil => rw [List.nil_append, indentLines_break isBreak_]; rfl
  | cons char rest inductionHypothesis =>
      rw [List.cons_append]
      cases isFirst : isBreak char with
      | true => rw [indentLines_break isFirst, indentLines_break isFirst, inductionHypothesis,
          List.cons_append]
      | false => rw [indentLines_char isFirst, indentLines_char isFirst, inductionHypothesis,
          List.append_assoc, List.cons_append]

/-- All characters of a text were read, and the block is at the beginning of a line exactly behind a
line break. -/
structure BlockText.Holds (text : BlockText) (indent : Nat) (chars : List Char) : Prop where
  isAt : text.IsAt indent (chars.getLast?.all isBreak)
  meaning : text.meaning = chars.reverse

/-- What is left of the lines of a text is read, up to what stands behind them. -/
theorem readBlock_lines {indent : Nat} {stop : List Char} :
    ∀ {chars before : List Char} {text : BlockText}, text.Holds indent before →
      ∃ after : BlockText, after.Holds indent (before ++ chars) ∧
        readBlock false least chomping text
            (indentLines indent (before.getLast?.all isBreak) chars ++ stop) =
          readBlock false least chomping after stop
  | [], before, text, holds => ⟨text, (List.append_nil before).symm ▸ holds, rfl⟩
  | char :: rest, before, text, holds => by
      have goOn {between : BlockText} (isAt : between.IsAt indent (isBreak char))
          (meaning : between.meaning = char :: text.meaning) :
          between.Holds indent (before ++ [char]) := by
        refine ⟨by simpa using isAt, ?_⟩
        rw [meaning, holds.meaning, List.reverse_append]
        rfl
      have split : before ++ char :: rest = (before ++ [char]) ++ rest := by simp
      cases isFirst : isBreak char with
      | true =>
          obtain ⟨between, isAt, meaning, -, same⟩ := readBlock_break least chomping holds.isAt isFirst
            (indentLines indent true rest ++ stop)
          obtain ⟨after, holds', same'⟩ := @readBlock_lines indent stop rest _ _
            (goOn (isFirst.symm ▸ isAt) meaning)
          refine ⟨after, split ▸ holds', ?_⟩
          rw [indentLines_break isFirst, List.cons_append, same, ← same']
          simp [isFirst]
      | false =>
          obtain ⟨between, isAt, meaning, same⟩ := readBlock_char least chomping holds.isAt isFirst
            (indentLines indent false rest ++ stop)
          obtain ⟨after, holds', same'⟩ := @readBlock_lines indent stop rest _ _
            (goOn (isFirst.symm ▸ isAt) meaning)
          refine ⟨after, split ▸ holds', ?_⟩
          rw [indentLines_char isFirst, List.append_assoc, List.cons_append, same, ← same']
          simp [isFirst]

/-- A block ends in front of the next line with text if that is indented less. -/
theorem readBlock_end {text : BlockText} {indent columns : Nat} (isAt : text.IsAt indent true)
    (less : columns < indent) {next : List Char} (isRest : IsLineRest next) :
    readBlock false least chomping text (List.replicate columns ' ' ++ next) =
      some (text.result chomping, ⟨text.line, columns, next⟩) := by
  have column := isAt.column rfl
  have notInLine : text.inLine = false := isAt.inLine
  obtain ⟨widest, -, -, -, read⟩ := readBlock_indentation least chomping notInLine columns
    (fun other isIndent => by
      have := Option.some.inj (isAt.indent.symm.trans isIndent)
      omega) next
  rw [read]
  cases next with
  | nil => simp [readBlock, column, BlockText.result]
  | cons char rest =>
      obtain ⟨notBlank, notBreak, -⟩ : IsSolid char := isRest
      have notSpace : char ≠ ' ' ∧ char ≠ '\t' := by
        constructor <;> (rintro rfl; exact absurd notBlank (by decide))
      simp [readBlock, notInLine, isAt.indent, column, notBreak, notSpace, Nat.ne_of_lt less,
        BlockText.result]

/-! The marks of a block. -/

/-- Whether the first line of a text does not show the indentation. -/
def hidesIndentation (chars : List Char) : Bool :=
  chars.head?.any fun char => char == ' ' || isBreak char

/-- What becomes of the line breaks at the end of a text. -/
def chompingOf (chars : List Char) : Chomping :=
  if endsInEmptyLine chars then .keep else if chars.getLast?.any isBreak then .clip else .strip

theorem readBlockMarks?_blockMarks (chars rest : List Char) :
    readBlockMarks? (blockMarks chars ++ '\n' :: rest) =
      some (chompingOf chars, if hidesIndentation chars then some 2 else none, '\n' :: rest) := by
  unfold blockMarks chompingOf
  change readBlockMarks? (((if hidesIndentation chars then ['2'] else []) ++ _) ++ _) = _
  cases hidesIndentation chars <;> cases endsInEmptyLine chars <;>
    cases chars.getLast?.any isBreak <;> rfl

/-- The block in front of its first line. -/
def BlockText.start (indent : Option Nat) (line : Nat) : BlockText :=
  ⟨indent, 0, [], [], [], false, false, line, 0⟩

/-- The lines of a text are read from the first one on, whether a mark gives their indentation or that
one shows it. -/
theorem readBlock_start {chars : List Char} (notEmpty : chars ≠ [])
    (printable : ∀ char ∈ chars, isPrintable char = true) {indent : Nat} (deep : least ≤ indent)
    (line : Nat) (stop : List Char) :
    ∃ after : BlockText, after.Holds indent chars ∧
      readBlock false least chomping
          (.start (if hidesIndentation chars then some indent else none) line)
          (indentLines indent true chars ++ stop) =
        readBlock false least chomping after stop := by
  cases hides : hidesIndentation chars with
  | true =>
      have holds : (BlockText.start (some indent) line).Holds indent [] :=
        ⟨⟨rfl, rfl, fun _ => rfl, by simp⟩, rfl⟩
      exact readBlock_lines least chomping holds
  | false =>
      obtain ⟨char, rest, rfl⟩ := List.exists_cons_of_ne_nil notEmpty
      simp only [hidesIndentation, List.head?_cons, Option.any_some, Bool.or_eq_false_iff,
        beq_eq_false_iff_ne] at hides
      have notBlank : isBlank char = false := by
        rw [Bool.eq_false_iff, ne_eq, isBlank_iff (printable char List.mem_cons_self)]
        exact hides.1
      obtain ⟨first, isAt, meaning, same⟩ := @readBlock_firstChar least chomping
        (.start none line) rfl rfl rfl rfl _ deep _ notBlank hides.2
        (indentLines indent false rest ++ stop)
      have holds : first.Holds indent [char] := ⟨by simpa [hides.2] using isAt, meaning⟩
      obtain ⟨after, holds', same'⟩ := @readBlock_lines least chomping _ stop rest _ _
        holds
      refine ⟨after, holds', ?_⟩
      rw [indentLines_char hides.2, if_pos rfl, List.append_assoc, List.cons_append]
      rw [if_neg (by simp), same, ← same']
      simp [hides.2]

/-- A line break behind text is the last one of the block in front of a line that is indented less. -/
theorem readBlock_lastBreak {text : BlockText} {indent : Nat} {chars : List Char}
    (holds : text.Holds indent chars) (notEmpty : chars.getLast?.all isBreak = false) {last : Char}
    (isBreak_ : isBreak last = true) {columns : Nat} (less : columns < indent) {next : List Char}
    (isRest : IsLineRest next) :
    ∃ after : BlockText, after.emptyLines = [] ∧ after.done = chars.reverse ∧
      after.meaning = last :: chars.reverse ∧
      readBlock false least chomping text (last :: (List.replicate columns ' ' ++ next)) =
        some (after.result chomping, ⟨after.line, columns, next⟩) := by
  have isAt : text.IsAt indent false := notEmpty ▸ holds.isAt
  obtain ⟨after, isAt', meaning, only, same⟩ := readBlock_break least chomping isAt isBreak_
    (List.replicate columns ' ' ++ next)
  obtain ⟨emptyLines, done⟩ := only rfl
  rw [holds.meaning] at meaning done
  exact ⟨after, emptyLines, done, meaning, same.trans (readBlock_end least chomping isAt' less isRest)⟩

/-- In front of a last break that ends no empty line stands a character that is no break. -/
theorem of_endsInEmptyLine {before : List Char} {last : Char} (isBreak_ : isBreak last = true)
    (closed : endsInEmptyLine (before ++ [last]) = false) :
    before ≠ [] ∧ before.getLast?.all isBreak = false := by
  simp only [endsInEmptyLine, List.reverse_append, List.reverse_cons, List.reverse_nil,
    List.nil_append, List.singleton_append, isBreak_, Bool.true_and,
    Bool.or_eq_false_iff, List.isEmpty_eq_false_iff, List.head?_reverse] at closed
  obtain ⟨notEmpty, ends⟩ := closed
  refine ⟨by simpa using notEmpty, ?_⟩
  cases final : before.getLast? with
  | none => simp_all
  | some char => simpa [final] using ends

/-- The lines of a block, each with a break at its end, are read as its text. -/
theorem readBlock_blockLines {chars : List Char} (notEmpty : chars ≠ [])
    (printable : ∀ char ∈ chars, isPrintable char = true) {indent columns : Nat} (deep : least ≤ indent)
    (less : columns < indent) {next : List Char} (isRest : IsLineRest next) (line : Nat) :
    ∃ line', readBlock false least (chompingOf chars)
        (.start (if hidesIndentation chars then some indent else none) line)
        ((if chars.getLast?.any isBreak then indentLines indent true chars
          else indentLines indent true chars ++ ['\n']) ++ (List.replicate columns ' ' ++ next)) =
      some (String.ofList chars, ⟨line', columns, next⟩) := by
  obtain ⟨before, last, rfl⟩ : ∃ before last, chars = before ++ [last] :=
    ⟨_, _, (List.dropLast_concat_getLast notEmpty).symm⟩
  have lastIs : (before ++ [last]).getLast?.any isBreak = isBreak last := by simp
  rw [lastIs]
  cases isBreak_ : isBreak last with
  | false =>
      -- The break at the end of the last line does not belong to the text.
      have strip : chompingOf (before ++ [last]) = .strip := by
        simp [chompingOf, endsInEmptyLine, isBreak_]
      obtain ⟨after, holds, same⟩ := readBlock_start least .strip notEmpty printable deep line
        ('\n' :: (List.replicate columns ' ' ++ next))
      obtain ⟨final, -, done, -, same'⟩ := readBlock_lastBreak least .strip holds
        (by simp [isBreak_]) (by decide : isBreak '\n' = true) less isRest
      refine ⟨final.line, ?_⟩
      simp only [strip, Bool.false_eq_true, if_false, List.append_assoc, List.singleton_append]
      rw [same, same']
      simp [BlockText.result, done]
  | true =>
      cases isOpen : endsInEmptyLine (before ++ [last]) with
      | true =>
          have keep : chompingOf (before ++ [last]) = .keep := by simp [chompingOf, isOpen]
          obtain ⟨after, holds, same⟩ := readBlock_start least .keep notEmpty
            printable deep line (List.replicate columns ' ' ++ next)
          have isAt : after.IsAt indent true := by simpa [isBreak_] using holds.isAt
          refine ⟨after.line, ?_⟩
          simp only [keep, if_true]
          rw [same, readBlock_end least .keep isAt less isRest]
          have meaning := holds.meaning
          rw [BlockText.meaning] at meaning
          simp [BlockText.result, meaning]
      | false =>
          have clip : chompingOf (before ++ [last]) = .clip := by
            simp [chompingOf, isOpen, isBreak_]
          have behind := of_endsInEmptyLine isBreak_ isOpen
          have shows : hidesIndentation (before ++ [last]) = hidesIndentation before := by
            cases before with
            | nil => exact absurd rfl behind.1
            | cons => rfl
          obtain ⟨after, holds, same⟩ := readBlock_start least .clip behind.1
            (fun char member => printable char (List.mem_append_left _ member)) deep line
            (last :: (List.replicate columns ' ' ++ next))
          obtain ⟨final, emptyLines, -, meaning, same'⟩ := readBlock_lastBreak least .clip
            holds behind.2 isBreak_ less isRest
          refine ⟨final.line, ?_⟩
          simp only [clip, shows, if_true, indentLines_append_break isBreak_, List.append_assoc,
            List.singleton_append]
          rw [same, same']
          rw [BlockText.meaning, emptyLines, List.nil_append] at meaning
          simp [BlockText.result, meaning]

/-- A text with several lines is read as a block behind its first mark. -/
theorem readBlockScalar_blockText {chars : List Char} (isBlock_ : isBlock chars = true)
    {parent columns : Nat} (less : columns ≤ parent) {next : List Char} (isRest : IsLineRest next)
    (line column : Nat) :
    ∃ line', readBlockScalar false (some parent)
        ⟨line, column, (blockText (parent + 2) chars).tail ++ (List.replicate columns ' ' ++ next)⟩ =
      some (String.ofList chars, ⟨line', columns, next⟩) := by
  simp only [isBlock, allowsBlock, Bool.and_eq_true, List.all_eq_true] at isBlock_
  obtain ⟨several, ⟨printable, -⟩, -⟩ := isBlock_
  have notEmpty : chars ≠ [] := by
    rintro rfl
    exact absurd several (by decide)
  obtain ⟨line', read⟩ := readBlock_blockLines (parent + 1) notEmpty printable
    (Nat.le_succ (parent + 1)) (Nat.lt_succ_of_le (Nat.le_succ_of_le less)) isRest (line + 1)
  refine ⟨line', ?_⟩
  have atHead : (blockText (parent + 2) chars).tail ++ (List.replicate columns ' ' ++ next) =
      blockMarks chars ++ '\n' :: ((if chars.getLast?.any isBreak then
        indentLines (parent + 2) true chars else indentLines (parent + 2) true chars ++ ['\n']) ++
          (List.replicate columns ' ' ++ next)) := by
    simp [blockText]
  -- Nothing stands between the marks and the end of their line.
  have toNextLine (marks rest : List Char) :
      ((Cursor.mk line column (marks ++ '\n' :: rest)).skip
        ((marks ++ '\n' :: rest).length - ('\n' :: rest).length)).skipComment.nextLine? =
        some ⟨line + 1, 0, rest⟩ := by
    simp [Cursor.skip, Cursor.skipComment, Cursor.skipWhile, Cursor.nextLine?,
      (by decide : isBreak '\n' = true), (by decide : isBlank '\n' = false)]
  have shown : (if hidesIndentation chars then some 2 else none).map (fun columns => parent + columns) =
      if hidesIndentation chars then some (parent + 2) else none := by
    cases hidesIndentation chars <;> rfl
  have deep : max (parent + 1) 1 = parent + 1 := by omega
  rw [atHead, readBlockScalar, readBlockMarks?_blockMarks]
  simp only [Option.bind_eq_bind, Option.bind_some, toNextLine, Option.elim_some, Option.getD_some,
    shown, deep]
  exact read

end ForwardTaint.Yaml
