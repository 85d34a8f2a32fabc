import Mathlib
import ForwardTaint.Yaml.Printer
import ForwardTaint.Yaml.Scalar

/-!
Plain scalars are read as they are written.  A text that can stand without quotes holds nothing that ends
a plain scalar, so it is read to its end: up to the colon behind a key, or up to the next line where that
is indented less.
-/

namespace ForwardTaint.Yaml

/-! Characters that can be written outside of double quotes. -/

theorem ne_of_isPrintable {char other : Char} (printable : isPrintable char = true)
    (isNot : isPrintable other = false) : char ≠ other := by
  rintro rfl
  exact Bool.false_ne_true (isNot.symm.trans printable)

/-- The only blank that can be printed is a space. -/
theorem isBlank_iff {char : Char} (printable : isPrintable char = true) :
    isBlank char = true ↔ char = ' ' := by
  have notTab := ne_of_isPrintable printable (by decide : isPrintable '\t' = false)
  simp [isBlank, notTab]

theorem isAllowed_of_isPrintable {char : Char} (printable : isPrintable char = true) :
    isAllowed char = true := by
  simp only [isPrintable, Bool.or_eq_true, Bool.and_eq_true, beq_iff_eq, decide_eq_true_eq] at printable
  simp only [isAllowed, Bool.or_eq_true, Bool.and_eq_true, beq_iff_eq, decide_eq_true_eq]
  grind

/-- A character with which something can begin in a line: no blank, no line break and no sign of a
comment. -/
def IsSolid (char : Char) : Prop := isBlank char = false ∧ isBreak char = false ∧ char ≠ '#'

/-- Where a line goes on behind its indentation: nowhere, or at a solid character. -/
def IsLineRest : List Char → Prop
  | [] => True
  | char :: _ => IsSolid char

namespace Gap

/-- The gap holds nothing but blanks. -/
structure IsInLine (gap : Gap) : Prop where
  breaks : gap.breaks = []
  escaped : gap.escaped = false

theorem isInLine_empty : empty.IsInLine := ⟨rfl, rfl⟩

variable {gap : Gap}

theorem meaning_of_isInLine (inLine : gap.IsInLine) : gap.meaning = gap.blanks := by
  simp [meaning, inLine.escaped, inLine.breaks]

theorem spansLines_of_isInLine (inLine : gap.IsInLine) : gap.spansLines = false := by
  simp [spansLines, inLine.escaped, inLine.breaks]

theorem add_space (inLine : gap.IsInLine) : gap.add ' ' = { gap with blanks := ' ' :: gap.blanks } := by
  have notBreak : isBreak ' ' = false := by decide
  simp [add, notBreak, spansLines_of_isInLine inLine]

end Gap

namespace ScalarText

/-- What was read of a scalar with what its gap means, last character first. -/
def meaning (text : ScalarText) : List Char := text.gap.meaning ++ text.done

/-- From one place in a scalar to another one some characters of a line were read. -/
structure Passes (before after : ScalarText) (chars : List Char) : Prop where
  meaning : after.meaning = chars.reverse ++ before.meaning
  line : after.line = before.line
  column : after.column = before.column + chars.length
  inLine : after.gap.IsInLine
  closed : chars ≠ [] → chars.getLast? ≠ some ' ' → after.gap = .empty

theorem passes_space {text : ScalarText} (inLine : text.gap.IsInLine) :
    text.Passes (text.space ' ') [' '] where
  meaning := by
    have added : (text.space ' ').gap = { text.gap with blanks := ' ' :: text.gap.blanks } :=
      Gap.add_space inLine
    have inLine' : (text.space ' ').gap.IsInLine := added ▸ ⟨inLine.breaks, inLine.escaped⟩
    rw [ScalarText.meaning, ScalarText.meaning, Gap.meaning_of_isInLine inLine,
      Gap.meaning_of_isInLine inLine', added]
    rfl
  line := rfl
  column := rfl
  inLine := by
    have added : (text.space ' ').gap = { text.gap with blanks := ' ' :: text.gap.blanks } :=
      Gap.add_space inLine
    exact added ▸ ⟨inLine.breaks, inLine.escaped⟩
  closed := by simp

theorem passes_add (text : ScalarText) (char : Char) :
    text.Passes (text.close.add [char]) [char] where
  meaning := rfl
  line := rfl
  column := rfl
  inLine := Gap.isInLine_empty
  closed _ _ := rfl

theorem Passes.trans {before between after : ScalarText} {chars rest : List Char}
    (first : before.Passes between chars) (second : between.Passes after rest)
    (notEmpty : rest ≠ []) : before.Passes after (chars ++ rest) where
  meaning := by rw [second.meaning, first.meaning, List.reverse_append, List.append_assoc]
  line := second.line.trans first.line
  column := by rw [second.column, first.column, List.length_append, Nat.add_assoc]
  inLine := second.inLine
  closed _ last := second.closed notEmpty fun isSpace => last (by
    rw [List.getLast?_append, isSpace]
    rfl)

end ScalarText

/-- Where a word goes on depends on the characters behind only if there are none. -/
theorem endsWord_append {chars : List Char} (notEmpty : chars ≠ []) (rest : List Char) :
    endsWord (chars ++ rest) = endsWord chars := by
  cases chars with
  | nil => exact absurd rfl notEmpty
  | cons => rfl

/-- A character that does not end a plain scalar in its line. -/
theorem readPlain_cons {indent : Nat} {text : ScalarText} {char : Char} {rest : List Char}
    (printable : isPrintable char = true) (notBreak : isBreak char = false)
    (isInLine : text.gap.IsInLine)
    (whereGap : text.gap.isEmpty = false → char ≠ '#' ∧ indent ≤ text.column)
    (notMark : text.column = 0 → isDocumentMark (char :: rest) = false)
    (notColon : char = ':' → endsWord rest = false) :
    ∃ after, readPlain false indent text (char :: rest) = readPlain false indent after rest ∧
      text.Passes after [char] ∧ (after.gap.isEmpty = false → char = ' ') := by
  by_cases isSpace : char = ' '
  · subst isSpace
    refine ⟨text.space ' ', ?_, ScalarText.passes_space isInLine, fun _ => rfl⟩
    simp [readPlain, (by decide : isBlank ' ' = true)]
  · have notBlank : isBlank char = false := by
      rw [Bool.eq_false_iff, ne_eq, isBlank_iff printable]
      exact isSpace
    refine ⟨text.close.add [char], ?_, ScalarText.passes_add text char, nofun⟩
    have notEnded : ¬(text.gap.isEmpty = false ∧ (text.column < indent ∨ char = '#')) := by
      rintro ⟨open_, outside | comment⟩
      · exact absurd (whereGap open_).2 (Nat.not_le.2 outside)
      · exact (whereGap open_).1 comment
    have notMarked : ¬(text.column = 0 ∧ isDocumentMark (char :: rest) = true) := by
      rintro ⟨start, isMark⟩
      exact Bool.false_ne_true ((notMark start).symm.trans isMark)
    have notColon : ¬(char = ':' ∧ endsWord rest = true) := by
      rintro ⟨isColon, ends⟩
      exact Bool.false_ne_true ((notColon isColon).symm.trans ends)
    simp [readPlain, notBlank, notBreak, notEnded, notMarked, endsPlain, notColon]

/-- A plain scalar does not end within characters without inner marks. -/
theorem readPlain_append (indent : Nat) (stop : List Char) :
    ∀ {chars : List Char} {text : ScalarText} {inWord : Bool}, chars ≠ [] →
      (∀ char ∈ chars, isPrintable char = true) → (∀ char ∈ chars, isBreak char = false) →
      hasInnerMark inWord chars = false → text.gap.IsInLine →
      (text.gap.isEmpty = false → inWord = false ∧ indent ≤ text.column) →
      indent ≤ text.column + 1 → (text.column = 0 → isDocumentMark (chars ++ stop) = false) →
      ∃ after, readPlain false indent text (chars ++ stop) = readPlain false indent after stop ∧
        text.Passes after chars
  | [], _, _, notEmpty, _, _, _, _, _, _, _ => absurd rfl notEmpty
  | char :: rest, text, inWord, _, printable, inLine, noMark, isInLine, whereGap, indented,
      notMark => by
      obtain ⟨printableFirst, printableRest⟩ := List.forall_mem_cons.1 printable
      obtain ⟨notBreak, noBreaks⟩ := List.forall_mem_cons.1 inLine
      simp only [hasInnerMark, Bool.or_eq_false_iff, Bool.and_eq_false_iff, beq_eq_false_iff_ne,
        Bool.not_eq_false'] at noMark
      obtain ⟨⟨notColon, notComment⟩, noMark⟩ := noMark
      have colon : char = ':' → rest ≠ [] ∧ endsWord (rest ++ stop) = false := by
        rintro isColon
        have goesOn := notColon.resolve_left (not_not_intro isColon)
        have notEmpty : rest ≠ [] := by
          rintro rfl
          exact absurd goesOn (by decide)
        exact ⟨notEmpty, (endsWord_append notEmpty stop).trans goesOn⟩
      have openGap (isOpen : text.gap.isEmpty = false) : char ≠ '#' ∧ indent ≤ text.column := by
        obtain ⟨outside, within⟩ := whereGap isOpen
        refine ⟨fun isComment => ?_, within⟩
        exact absurd (notComment.resolve_left (not_not_intro isComment)) (by simp [outside])
      obtain ⟨after, same, passes, gap⟩ := readPlain_cons printableFirst notBreak isInLine openGap
        notMark fun isColon => (colon isColon).2
      by_cases isLast : rest = []
      · subst isLast
        exact ⟨after, same, passes⟩
      · have column : after.column = text.column + 1 := passes.column
        obtain ⟨final, same', passes'⟩ := readPlain_append indent stop isLast printableRest noBreaks
          noMark passes.inLine
          (fun isOpen => ⟨by simp [gap isOpen, isBlank], column ▸ indented⟩)
          (by omega) (fun atStart => absurd atStart (by omega))
        exact ⟨final, same.trans same', passes.trans passes' isLast⟩

/-- A text that can stand without quotes. -/
structure IsPlain (chars : List Char) : Prop where
  notEmpty : chars ≠ []
  begins : hasLeadingMark chars = false
  goesOn : hasInnerMark false chars = false
  printable : ∀ char ∈ chars, isPrintable char = true
  inLine : ∀ char ∈ chars, isBreak char = false
  first : chars.head? ≠ some ' '
  last : chars.getLast? ≠ some ' '

theorem isPlain_of_allowsPlain {chars : List Char} (notEmpty : chars ≠ [])
    (allowed : allowsPlain chars = true) : IsPlain chars := by
  simp only [allowsPlain, Bool.and_eq_true, Bool.not_eq_true', List.all_eq_true, List.any_eq_false,
    Bool.not_eq_true] at allowed
  obtain ⟨⟨⟨⟨⟨begins, goesOn⟩, printable⟩, inLine⟩, first⟩, last⟩ := allowed
  refine ⟨notEmpty, begins, goesOn, printable, inLine, fun isSpace => ?_, fun isSpace => ?_⟩
  · simp [isSpace] at first
  · simp [isSpace] at last

namespace IsPlain

variable {chars : List Char}

/-- Plain text does not look like a mark between documents in front of a character that is none of
such a mark. -/
theorem isDocumentMark_eq_false (plain : IsPlain chars) {char : Char} {rest : List Char}
    (notDash : char ≠ '-') (notDot : char ≠ '.') : isDocumentMark (chars ++ char :: rest) = false := by
  have begins := plain.begins
  rcases chars with _ | ⟨first, _ | ⟨second, _ | ⟨third, further⟩⟩⟩
  · exact absurd rfl plain.notEmpty
  · simp [isDocumentMark, notDash, notDot]
  · simp [isDocumentMark, notDash, notDot]
  · simp only [hasLeadingMark, Bool.or_eq_false_iff] at begins
    obtain ⟨⟨-, dashes⟩, dots⟩ := begins
    rw [List.cons_append, List.cons_append, List.cons_append]
    unfold isDocumentMark
    split <;> simp_all

/-- A plain scalar is read up to what follows it in its line. -/
theorem readPlain_eq (plain : IsPlain chars) {indent line column : Nat} {stop : List Char}
    (indented : indent ≤ column + 1) (notMark : column = 0 → isDocumentMark (chars ++ stop) = false) :
    readPlain false indent ⟨[], .empty, line, column⟩ (chars ++ stop) =
      readPlain false indent ⟨chars.reverse, .empty, line, column + chars.length⟩ stop := by
  obtain ⟨⟨done, gap, line', column'⟩, same, passes⟩ := @readPlain_append indent stop _
    ⟨[], .empty, line, column⟩ _ plain.notEmpty plain.printable plain.inLine plain.goesOn
    Gap.isInLine_empty nofun indented notMark
  obtain rfl : gap = .empty := passes.closed plain.notEmpty plain.last
  obtain rfl : line' = line := passes.line
  obtain rfl : column' = column + chars.length := passes.column
  obtain rfl : done = chars.reverse := passes.meaning.trans (List.append_nil _)
  exact same

/-- A plain scalar ends at the colon of a key. -/
theorem readPlain_key (plain : IsPlain chars) {rest : List Char} (ends : endsWord rest = true)
    {indent : Nat} {line column : Nat} (indented : indent ≤ column + 1) :
    readPlain false indent ⟨[], .empty, line, column⟩ (chars ++ ':' :: rest) =
      some (String.ofList chars, false, ⟨line, column + chars.length, ':' :: rest⟩) := by
  rw [plain.readPlain_eq indented fun _ => plain.isDocumentMark_eq_false (by decide) (by decide)]
  simp [readPlain, (by decide : isBlank ':' = false), (by decide : isBreak ':' = false), isDocumentMark,
    endsPlain, ends, ScalarText.result, ScalarText.cursor, Gap.empty, Gap.isEmpty, Gap.spansLines]

end IsPlain

/-- Spaces at the beginning of a line add nothing to a gap. -/
theorem ScalarText.space_of_spansLines {text : ScalarText} (spans : text.gap.spansLines = true) :
    text.space ' ' = { text with column := text.column + 1 } := by
  simp [space, Gap.add, spans, (by decide : isBreak ' ' = false)]

theorem readPlain_indentation {indent : Nat} {text : ScalarText}
    (spans : text.gap.spansLines = true) (columns : Nat) (rest : List Char) :
    readPlain false indent text (List.replicate columns ' ' ++ rest) =
      readPlain false indent { text with column := text.column + columns } rest := by
  induction columns generalizing text with
  | zero => rfl
  | succ columns inductionHypothesis =>
      rw [List.replicate_succ, List.cons_append, readPlain, if_pos (by decide), if_neg (by simp),
        text.space_of_spansLines spans, inductionHypothesis (by exact spans), Nat.add_assoc,
        Nat.add_comm 1]

/-- A plain scalar ends in front of the next line with text if that is indented less. -/
theorem IsPlain.readPlain_value {chars : List Char} (plain : IsPlain chars) {next : List Char}
    (isRest : IsLineRest next) {indent line column columns : Nat} (less : columns < indent)
    (indented : indent ≤ column) :
    readPlain false indent ⟨[], .empty, line, column⟩
        (chars ++ '\n' :: (List.replicate columns ' ' ++ next)) =
      some (String.ofList chars, true, ⟨line + 1, columns, next⟩) := by
  have spaced : ScalarText.space ⟨chars.reverse, .empty, line, column + chars.length⟩ '\n' =
      ⟨chars.reverse, ⟨[], ['\n'], false⟩, line + 1, 0⟩ := rfl
  rw [plain.readPlain_eq (Nat.le_succ_of_le indented) fun atStart => absurd indented (by omega),
    readPlain, if_pos (by decide), if_neg (by simp), spaced, readPlain_indentation rfl]
  cases next with
  | nil => simp [readPlain, ScalarText.result, ScalarText.cursor, Gap.spansLines]
  | cons char rest =>
      obtain ⟨notBlank, notBreak, -⟩ : IsSolid char := isRest
      simp [readPlain, notBlank, notBreak, less, ScalarText.result, ScalarText.cursor,
        Gap.spansLines, Gap.isEmpty]

end ForwardTaint.Yaml
