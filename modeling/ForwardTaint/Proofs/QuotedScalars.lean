import ForwardTaint.Proofs.PlainScalars

/-!
Quoted scalars are read as they are written.  In single quotes the line breaks of a text stand for
themselves, as none of them is an ordinary one or next to a space; in double quotes all that is not
printed as it is stands as an escape, which means that character again.
-/

namespace ForwardTaint.Yaml

/-! Single quotes. -/

/-- A character of a text in single quotes. -/
def singleQuotedChar (char : Char) : List Char := if char = '\'' then ['\'', '\''] else [char]

theorem singleQuoted_eq (indent : Nat) (chars : List Char) :
    singleQuoted indent chars =
      '\'' :: indentLines indent false (chars.flatMap singleQuotedChar ++ ['\'']) := by
  unfold singleQuoted
  have doubled : (chars.flatMap fun char => if char = '\'' then ['\'', '\''] else [char]) =
      chars.flatMap singleQuotedChar := rfl
  simp only [doubled]
  cases chars.flatMap singleQuotedChar with
  | nil => rfl
  | cons first rest =>
      cases isFirst : isBreak first with
      | true => simp [indentLines, isFirst]
      | false => simp [indentLines, isFirst]

namespace Gap

/-- The gap holds spaces or line breaks that stand for themselves, but not both. -/
structure IsLiteral (gap : Gap) : Prop where
  escaped : gap.escaped = false
  breaks : '\n' ∉ gap.breaks
  pure : gap.blanks = [] ∨ gap.breaks = []

theorem isLiteral_empty : empty.IsLiteral := ⟨rfl, by simp [empty], .inl rfl⟩

variable {gap : Gap}

theorem meaning_of_isLiteral (isLiteral : gap.IsLiteral) :
    gap.meaning = gap.breaks ++ gap.blanks := by
  have first : ∀ rest, gap.breaks.reverse ≠ '\n' :: rest := fun rest same =>
    isLiteral.breaks (List.mem_reverse.1 (same ▸ List.mem_cons_self))
  rw [meaning, if_neg (by simp [isLiteral.escaped])]
  split
  · next noBreaks => simp [List.reverse_eq_nil_iff.1 noBreaks]
  · next same => exact absurd same (first [])
  · next rest _ same => exact absurd same (first rest)
  · next notEmpty _ _ =>
      have noBlanks := isLiteral.pure.resolve_right fun noBreaks => notEmpty (by simp [noBreaks])
      simp [noBlanks]

theorem isLiteral_add_space (isLiteral : gap.IsLiteral) (noBreaks : gap.breaks = []) :
    (gap.add ' ').IsLiteral ∧ (gap.add ' ').meaning = ' ' :: gap.meaning ∧ (gap.add ' ').breaks = [] := by
  have added := add_space ⟨noBreaks, isLiteral.escaped⟩
  have literal : (gap.add ' ').IsLiteral := by
    rw [added]
    exact ⟨isLiteral.escaped, isLiteral.breaks, .inr noBreaks⟩
  refine ⟨literal, ?_, ?_⟩
  · rw [meaning_of_isLiteral literal, meaning_of_isLiteral isLiteral, added]
    simp [noBreaks]
  · rw [added]
    exact noBreaks

theorem isLiteral_add_break (isLiteral : gap.IsLiteral) (noBlanks : gap.blanks = []) {char : Char}
    (isBreak_ : isBreak char = true) (notLineFeed : char ≠ '\n') :
    (gap.add char).IsLiteral ∧ (gap.add char).meaning = char :: gap.meaning ∧
      (gap.add char).breaks ≠ [] ∧ (gap.add char).blanks = [] := by
  have added : gap.add char = { gap with blanks := [], breaks := char :: gap.breaks } := by
    rw [add, if_pos isBreak_]
  have literal : (gap.add char).IsLiteral := by
    rw [added]
    refine ⟨isLiteral.escaped, ?_, .inl rfl⟩
    simp [Ne.symm notLineFeed, isLiteral.breaks]
  refine ⟨literal, ?_, by simp [added], by simp [added]⟩
  rw [meaning_of_isLiteral literal, meaning_of_isLiteral isLiteral, added, noBlanks]
  rfl

end Gap

theorem readQuoted_indentation {double : Bool} {text : ScalarText}
    (spans : text.gap.spansLines = true) (columns : Nat) (rest : List Char) :
    readQuoted double .reading text (List.replicate columns ' ' ++ rest) =
      readQuoted double .reading { text with column := text.column + columns } rest := by
  induction columns generalizing text with
  | zero => rfl
  | succ columns inductionHypothesis =>
      rw [List.replicate_succ, List.cons_append, readQuoted, if_pos (by decide),
        text.space_of_spansLines spans, inductionHypothesis (by exact spans), Nat.add_assoc,
        Nat.add_comm 1]

/-- The indentation in front of a character that does not break the line leads to a column that is not
the first one. -/
theorem readQuoted_indentLines {indent : Nat} (positive : 0 < indent) {text : ScalarText}
    {atStart : Bool} {char : Char} (notBreak : isBreak char = false)
    (isStart : atStart = true → text.gap.spansLines = true)
    (notStart : atStart = false → text.column ≠ 0) (rest stop : List Char) :
    ∃ column, column ≠ 0 ∧
      readQuoted false .reading text (indentLines indent atStart (char :: rest) ++ stop) =
        readQuoted false .reading { text with column }
          (char :: (indentLines indent false rest ++ stop)) := by
  cases atStart with
  | true =>
      refine ⟨text.column + indent, by omega, ?_⟩
      rw [indentLines, if_neg (by simp [notBreak]), if_pos rfl, List.append_assoc,
        readQuoted_indentation (isStart rfl)]
      rfl
  | false =>
      refine ⟨text.column, notStart rfl, ?_⟩
      rw [indentLines, if_neg (by simp [notBreak]), if_neg (by simp)]
      rfl

/-- A character that is no blank closes the gap in front of it. -/
theorem readQuoted_singleQuotedChar {indent : Nat} (positive : 0 < indent) {text : ScalarText}
    {atStart : Bool} {char : Char} (notBlank : isBlank char = false) (notBreak : isBreak char = false)
    (isStart : atStart = true → text.gap.spansLines = true)
    (notStart : atStart = false → text.column ≠ 0) (rest stop : List Char) :
    ∃ column, column ≠ 0 ∧
      readQuoted false .reading text
          (indentLines indent atStart (singleQuotedChar char ++ rest) ++ stop) =
        readQuoted false .reading ⟨char :: text.meaning, .empty, text.line, column⟩
          (indentLines indent false rest ++ stop) := by
  by_cases isQuote : char = '\''
  · subst isQuote
    obtain ⟨column, notZero, same⟩ := readQuoted_indentLines positive notBreak
      isStart notStart ('\'' :: rest) stop
    refine ⟨column + 2, Nat.succ_ne_zero _, same.trans ?_⟩
    simp [readQuoted, indentLines, notBlank, notBreak, notZero, ScalarText.close, ScalarText.add,
      ScalarText.meaning]
  · obtain ⟨column, notZero, same⟩ := readQuoted_indentLines positive notBreak
      isStart notStart rest stop
    refine ⟨column + 1, Nat.succ_ne_zero _, ?_⟩
    rw [singleQuotedChar, if_neg isQuote, List.singleton_append, same]
    simp [readQuoted, notBlank, notBreak, notZero, isQuote, ScalarText.close, ScalarText.add,
      ScalarText.meaning]

theorem hasPair_cons {first second : Char → Bool} {char : Char} {rest : List Char}
    (noPair : hasPair first second (char :: rest) = false) :
    (∀ next ∈ rest.head?, first char = true → second next = false) ∧
      hasPair first second rest = false := by
  cases rest with
  | nil => exact ⟨by simp, rfl⟩
  | cons next rest =>
      simp only [hasPair, Bool.or_eq_false_iff, Bool.and_eq_false_iff] at noPair
      refine ⟨?_, noPair.2⟩
      rintro other ⟨⟩ isFirst
      exact noPair.1.resolve_left (by simp [isFirst])

theorem ScalarText.meaning_space {text : ScalarText} {char : Char}
    (added : (text.gap.add char).meaning = char :: text.gap.meaning) :
    (text.space char).meaning = char :: text.meaning := by
  rw [meaning, space, added]
  rfl

/-- The characters can stand in single quotes, and have no ordinary line break. -/
structure IsQuotable (chars : List Char) : Prop where
  printable : ∀ char ∈ chars, isPrintable char = true
  noLineFeed : '\n' ∉ chars
  noSpace : hasPair isBreak (· == ' ') chars = false
  noBreak : hasPair (· == ' ') isBreak chars = false

theorem IsQuotable.tail {char : Char} {rest : List Char} (quotable : IsQuotable (char :: rest)) :
    IsQuotable rest where
  printable other member := quotable.printable other (List.mem_cons_of_mem _ member)
  noLineFeed member := quotable.noLineFeed (List.mem_cons_of_mem _ member)
  noSpace := (hasPair_cons quotable.noSpace).2
  noBreak := (hasPair_cons quotable.noBreak).2

/-- The characters come behind a gap of which nothing is lost: at the start of a line it has a break,
and elsewhere the column is not the first one. -/
structure ScalarText.IsBefore (text : ScalarText) (atStart : Bool) (chars : List Char) : Prop where
  isLiteral : text.gap.IsLiteral
  isStart : atStart = true → text.gap.breaks ≠ []
  notStart : atStart = false → text.column ≠ 0
  space : ∀ char ∈ chars.head?, char = ' ' → text.gap.breaks = []
  lineBreak : ∀ char ∈ chars.head?, isBreak char = true → text.gap.blanks = []

theorem ScalarText.IsBefore.spansLines {text : ScalarText} {atStart : Bool} {chars : List Char}
    (before : text.IsBefore atStart chars) (start : atStart = true) :
    text.gap.spansLines = true := by
  simp [Gap.spansLines, before.isStart start]

/-- A space or a line break widens the gap, and any other character closes it. -/
theorem readQuoted_step {indent : Nat} (positive : 0 < indent) {char : Char} {rest : List Char}
    (quotable : IsQuotable (char :: rest)) {text : ScalarText} {atStart : Bool}
    (before : text.IsBefore atStart (char :: rest)) (more stop : List Char) :
    ∃ (after : ScalarText) (atStart' : Bool), after.IsBefore atStart' rest ∧
      after.meaning = char :: text.meaning ∧
      readQuoted false .reading text
          (indentLines indent atStart (singleQuotedChar char ++ more) ++ stop) =
        readQuoted false .reading after (indentLines indent atStart' more ++ stop) := by
  obtain ⟨noSpaceNext, -⟩ := hasPair_cons quotable.noSpace
  obtain ⟨noBreakNext, -⟩ := hasPair_cons quotable.noBreak
  by_cases isSpace : char = ' '
  · subst isSpace
    have noBreaks := before.space ' ' rfl rfl
    obtain rfl : atStart = false := Bool.eq_false_iff.2 fun start => before.isStart start noBreaks
    obtain ⟨literal, meaning, noBreaks'⟩ := Gap.isLiteral_add_space before.isLiteral noBreaks
    refine ⟨text.space ' ', false, ?_, ScalarText.meaning_space meaning, ?_⟩
    · exact ⟨literal, by simp, fun _ => Nat.succ_ne_zero _, fun _ _ _ => noBreaks',
        fun next isNext isBreak_ => absurd isBreak_ (by simp [noBreakNext next isNext rfl])⟩
    · simp [singleQuotedChar, indentLines, readQuoted, (by decide : isBlank ' ' = true),
        (by decide : isBreak ' ' = false)]
  · cases isBreak_ : isBreak char with
    | true =>
        have notLineFeed : '\n' ≠ char := fun same =>
          quotable.noLineFeed (same ▸ List.mem_cons_self)
        have notQuote : char ≠ '\'' := by
          rintro rfl
          exact absurd isBreak_ (by decide)
        obtain ⟨literal, meaning, breaks, noBlanks⟩ := Gap.isLiteral_add_break before.isLiteral
          (before.lineBreak char rfl isBreak_) isBreak_ (Ne.symm notLineFeed)
        refine ⟨text.space char, true, ?_, ScalarText.meaning_space meaning, ?_⟩
        · exact ⟨literal, fun _ => breaks, by simp, fun next isNext isSpace =>
            absurd isSpace (by simpa using noSpaceNext next isNext isBreak_), fun _ _ _ => noBlanks⟩
        · simp [singleQuotedChar, notQuote, indentLines, readQuoted, isBreak_]
    | false =>
        have notBlank : isBlank char = false := by
          rwa [Bool.eq_false_iff, ne_eq, isBlank_iff (quotable.printable char List.mem_cons_self)]
        obtain ⟨column, notZero, same⟩ := readQuoted_singleQuotedChar positive notBlank isBreak_
          before.spansLines before.notStart more stop
        exact ⟨⟨char :: text.meaning, .empty, text.line, column⟩, false,
          ⟨Gap.isLiteral_empty, by simp, fun _ => notZero, fun _ _ _ => rfl, fun _ _ _ => rfl⟩,
          rfl, same⟩

/-- What is left of a text in single quotes is read behind a gap of which nothing is lost. -/
theorem readQuoted_single {indent : Nat} (positive : 0 < indent) (tail : List Char)
    {chars : List Char} (quotable : IsQuotable chars) {text : ScalarText} {atStart : Bool}
    (before : text.IsBefore atStart chars) :
    ∃ line column, readQuoted false .reading text
        (indentLines indent atStart (chars.flatMap singleQuotedChar ++ ['\'']) ++ '\n' :: tail) =
      some (String.ofList (text.meaning.reverse ++ chars), ⟨line, column, '\n' :: tail⟩) := by
  induction chars generalizing text atStart with
  | nil =>
      obtain ⟨column, notZero, same⟩ := readQuoted_indentLines positive
        (by decide : isBreak '\'' = false) before.spansLines before.notStart [] ('\n' :: tail)
      refine ⟨text.line, column + 1, ?_⟩
      rw [List.flatMap_nil, List.nil_append, same]
      simp [indentLines, readQuoted, (by decide : isBlank '\'' = false),
        (by decide : isBreak '\'' = false), notZero, ScalarText.close, ScalarText.add,
        ScalarText.result, ScalarText.cursor, ScalarText.meaning]
  | cons char rest inductionHypothesis =>
      obtain ⟨after, atStart', before', meaning, same⟩ := readQuoted_step positive quotable before
        (rest.flatMap singleQuotedChar ++ ['\'']) ('\n' :: tail)
      obtain ⟨line, column, read⟩ := inductionHypothesis quotable.tail before'
      refine ⟨line, column, ?_⟩
      rw [List.flatMap_cons, List.append_assoc, same, read, meaning]
      simp

/-- A text in single quotes is read behind the first one. -/
theorem readQuoted_singleQuoted {indent : Nat} (positive : 0 < indent) {chars : List Char}
    (allowed : allowsSingleQuotes chars = true) (noLineFeed : '\n' ∉ chars) {line column : Nat}
    (notStart : column ≠ 0) (tail : List Char) :
    ∃ line' column', readQuoted false .reading ⟨[], .empty, line, column⟩
        ((singleQuoted indent chars).tail ++ '\n' :: tail) =
      some (String.ofList chars, ⟨line', column', '\n' :: tail⟩) := by
  simp only [allowsSingleQuotes, Bool.and_eq_true, Bool.not_eq_true', List.all_eq_true] at allowed
  obtain ⟨⟨printable, noSpace⟩, noBreak⟩ := allowed
  rw [singleQuoted_eq, List.tail_cons]
  exact readQuoted_single positive tail ⟨printable, noLineFeed, noSpace, noBreak⟩
    ⟨Gap.isLiteral_empty, by simp, fun _ => notStart, fun _ _ _ => rfl, fun _ _ _ => rfl⟩

/-! Double quotes. -/

/-- What a digit adds to the number that the digits before it write. -/
def addHexDigit (value : Nat) (digit : Char) : Option Nat :=
  (Json.hexValue? digit).map fun digit => 16 * value + digit

theorem hexValue?_digitChar : ∀ digit < 16,
    Json.hexValue? (Nat.digitChar digit).toUpper = some digit := by
  decide

/-- The digits of a number write it. -/
theorem foldlM_toDigits (value : Nat) :
    ((Nat.toDigits 16 value).map Char.toUpper).foldlM addHexDigit 0 = some value := by
  induction value using Nat.strongRecOn with
  | ind value inductionHypothesis =>
      rw [Nat.toDigits_eq_if (by decide)]
      split
      · next small => simp [addHexDigit, hexValue?_digitChar value small]
      · next large =>
          have shorter := inductionHypothesis (value / 16) (by omega)
          have last := hexValue?_digitChar (value % 16) (Nat.mod_lt _ (by decide))
          simp only [List.map_append, List.foldlM_append, shorter, List.map_cons, List.map_nil]
          simp [addHexDigit, last]
          omega

theorem foldlM_hexDigits (width value : Nat) :
    (hexDigits width value).foldlM addHexDigit 0 = some value := by
  have zeros (count : Nat) : (List.replicate count '0').foldlM addHexDigit 0 = some 0 := by
    induction count with
    | zero => rfl
    | succ count inductionHypothesis =>
        rw [List.replicate_succ, List.foldlM_cons]
        exact inductionHypothesis
  rw [hexDigits, List.foldlM_append, zeros]
  exact foldlM_toDigits value

theorem length_hexDigits {width value : Nat} (positive : 0 < width) (small : value < 16 ^ width) :
    (hexDigits width value).length = width := by
  have := (Nat.length_toDigits_le_iff (b := 16) (by decide) positive).2 small
  simp [hexDigits]
  omega

/-- The digits of an escape are read as the character with their number. -/
theorem readQuoted_digits {rest : List Char} {char : Char} :
    ∀ {digits : List Char} {value : Nat} (text : ScalarText), digits ≠ [] →
      digits.foldlM addHexDigit value = some char.toNat →
      ∃ column, column ≠ 0 ∧
        readQuoted true (.digits digits.length value) text (digits ++ rest) =
          readQuoted true .reading ⟨char :: text.done, text.gap, text.line, column⟩ rest
  | [], _, _, notEmpty, _ => absurd rfl notEmpty
  | digit :: digits, value, text, _, total => by
      rw [List.foldlM_cons] at total
      obtain ⟨next, added, total⟩ := Option.bind_eq_some_iff.1 total
      obtain ⟨number, isDigit, rfl⟩ := Option.map_eq_some_iff.1 added
      by_cases isLast : digits = []
      · subst isLast
        have same : 16 * value + number = char.toNat := Option.some.inj total
        have valid : char.toNat.isValidChar := char.valid
        refine ⟨text.column + 1, Nat.succ_ne_zero _, ?_⟩
        rw [List.singleton_append, List.length_singleton, readQuoted, isDigit]
        simp only [same, Nat.lt_irrefl, if_false, if_pos valid, Char.ofNat_toNat]
        rfl
      · obtain ⟨column, notZero, read⟩ := readQuoted_digits (text.add []) isLast total
        refine ⟨column, notZero, Eq.trans ?_ read⟩
        have several : 1 < digits.length + 1 := by
          have := List.length_pos_iff.2 isLast
          omega
        simp [readQuoted, isDigit, several]

/-- An escape is read as the character that it stands for. -/
theorem readQuoted_escaped {text : ScalarText} (notStart : text.column ≠ 0)
    (char : Char) (rest : List Char) :
    ∃ column, column ≠ 0 ∧
      readQuoted true .reading text (escaped char ++ rest) =
        readQuoted true .reading ⟨char :: text.meaning, .empty, text.line, column⟩ rest := by
  have backslash (chars : List Char) : readQuoted true .reading text ('\\' :: chars) =
      readQuoted true .escape ⟨text.meaning, .empty, text.line, text.column + 1⟩ chars := by
    simp [readQuoted, (by decide : isBlank '\\' = false), (by decide : isBreak '\\' = false), notStart,
      ScalarText.close, ScalarText.add, ScalarText.meaning]
  have letter {name meaning : Char} (isBreak_ : isBreak name = false)
      (means : escapedChar? name = some meaning) :
      readQuoted true .reading text ('\\' :: name :: rest) =
        readQuoted true .reading ⟨meaning :: text.meaning, .empty, text.line, text.column + 2⟩ rest := by
    rw [backslash]
    simp [readQuoted, isBreak_, means, ScalarText.add]
  have number {name : Char} {width : Nat} (isBreak_ : isBreak name = false)
      (isDigits : escapedChar? name = none ∧ escapeDigits? name = some width) (positive : 0 < width)
      (small : char.toNat < 16 ^ width) :
      ∃ column, column ≠ 0 ∧
        readQuoted true .reading text ('\\' :: name :: (hexDigits width char.toNat ++ rest)) =
          readQuoted true .reading ⟨char :: text.meaning, .empty, text.line, column⟩ rest := by
    have length := length_hexDigits positive small
    obtain ⟨column, notZero, read⟩ := @readQuoted_digits rest char _ _
      ⟨text.meaning, .empty, text.line, text.column + 2⟩
      (by rw [← List.length_pos_iff, length]; exact positive)
      (foldlM_hexDigits width char.toNat)
    refine ⟨column, notZero, ?_⟩
    rw [length] at read
    rw [backslash, ← read]
    simp [readQuoted, isBreak_, isDigits, ScalarText.add]
  unfold escaped
  split
  case h_16 =>
    dsimp only
    split
    · exact number (by decide) (by decide) (by decide) (by omega)
    · split
      · exact number (by decide) (by decide) (by decide) (by omega)
      · exact number (by decide) (by decide) (by decide) char.val.toNat_lt
  all_goals exact ⟨text.column + 2, Nat.succ_ne_zero _, letter (by decide) (by decide)⟩

/-- A character of a text in double quotes. -/
def doubleQuotedChar (char : Char) : List Char :=
  if isPrintable char && !isBreak char && char != '"' && char != '\\' then [char] else escaped char

theorem doubleQuoted_eq (chars : List Char) :
    doubleQuoted chars = '"' :: (chars.flatMap doubleQuotedChar ++ ['"']) := rfl

theorem readQuoted_doubleQuotedChar {text : ScalarText} (isInLine : text.gap.IsInLine)
    (notStart : text.column ≠ 0) (char : Char) (rest : List Char) :
    ∃ after : ScalarText, after.gap.IsInLine ∧ after.column ≠ 0 ∧
      after.meaning = char :: text.meaning ∧
      readQuoted true .reading text (doubleQuotedChar char ++ rest) =
        readQuoted true .reading after rest := by
  by_cases stands :
      (isPrintable char && !isBreak char && char != '"' && char != '\\') = true
  · rw [doubleQuotedChar, if_pos stands]
    simp only [Bool.and_eq_true, Bool.not_eq_true', bne_iff_ne] at stands
    obtain ⟨⟨⟨printable, notBreak⟩, notQuote⟩, notBackslash⟩ := stands
    by_cases isSpace : char = ' '
    · subst isSpace
      have passes := ScalarText.passes_space isInLine
      refine ⟨text.space ' ', passes.inLine, Nat.succ_ne_zero _, passes.meaning, ?_⟩
      simp [readQuoted, (by decide : isBlank ' ' = true)]
    · have notBlank : isBlank char = false := by
        rwa [Bool.eq_false_iff, ne_eq, isBlank_iff printable]
      refine ⟨text.close.add [char], Gap.isInLine_empty, Nat.succ_ne_zero _, rfl, ?_⟩
      simp [readQuoted, notBlank, notBreak, notStart, notQuote, notBackslash]
  · rw [doubleQuotedChar, if_neg stands]
    obtain ⟨column, notZero, read⟩ := readQuoted_escaped notStart char rest
    exact ⟨_, Gap.isInLine_empty, notZero, rfl, read⟩

/-- What is left of a text in double quotes is read behind a gap of spaces. -/
theorem readQuoted_double (tail : List Char) :
    ∀ (chars : List Char) {text : ScalarText}, text.gap.IsInLine → text.column ≠ 0 →
      ∃ line column, readQuoted true .reading text
          (chars.flatMap doubleQuotedChar ++ '"' :: tail) =
        some (String.ofList (text.meaning.reverse ++ chars), ⟨line, column, tail⟩)
  | [], text, isInLine, notStart => by
      refine ⟨text.line, text.column + 1, ?_⟩
      simp [readQuoted, (by decide : isBlank '"' = false), (by decide : isBreak '"' = false),
        notStart, ScalarText.close, ScalarText.add, ScalarText.result, ScalarText.cursor,
        ScalarText.meaning]
  | char :: rest, text, isInLine, notStart => by
      obtain ⟨after, inLine, notStart', meaning, same⟩ := readQuoted_doubleQuotedChar isInLine notStart
        char (rest.flatMap doubleQuotedChar ++ '"' :: tail)
      obtain ⟨line, column, read⟩ := readQuoted_double tail rest inLine notStart'
      refine ⟨line, column, ?_⟩
      rw [List.flatMap_cons, List.append_assoc, same, read, meaning]
      simp

/-- A text in double quotes is read behind the first one. -/
theorem readQuoted_doubleQuoted (chars : List Char) {line column : Nat} (notStart : column ≠ 0)
    (tail : List Char) :
    ∃ line' column', readQuoted true .reading ⟨[], .empty, line, column⟩
        ((doubleQuoted chars).tail ++ tail) = some (String.ofList chars, ⟨line', column', tail⟩) := by
  rw [doubleQuoted_eq, List.tail_cons, List.append_assoc, List.singleton_append]
  exact readQuoted_double tail chars Gap.isInLine_empty notStart

end ForwardTaint.Yaml
