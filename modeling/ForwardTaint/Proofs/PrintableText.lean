import ForwardTaint.Proofs.QuotedScalars
import ForwardTaint.Yaml.Token

/-!
All that is printed are printable characters, whatever characters a text holds.  The lexer neither refuses
nor replaces any of them.
-/

namespace ForwardTaint.Yaml

/-- All characters can be written outside double quotes. -/
def ArePrintable (chars : List Char) : Prop := ∀ char ∈ chars, isPrintable char = true

namespace ArePrintable

@[simp] theorem nil : ArePrintable [] := nofun

@[simp] theorem cons_iff {char : Char} {rest : List Char} :
    ArePrintable (char :: rest) ↔ isPrintable char = true ∧ ArePrintable rest :=
  List.forall_mem_cons

@[simp] theorem append_iff {chars rest : List Char} :
    ArePrintable (chars ++ rest) ↔ ArePrintable chars ∧ ArePrintable rest :=
  List.forall_mem_append

@[simp] theorem replicate {char : Char} (printable : isPrintable char = true) (count : Nat) :
    ArePrintable (List.replicate count char) :=
  fun _ member => List.eq_of_mem_replicate member ▸ printable

theorem flatMap {chars : List Char} {written : Char → List Char}
    (printable : ∀ char ∈ chars, ArePrintable (written char)) : ArePrintable (chars.flatMap written) := by
  intro char member
  obtain ⟨origin, isIn, member⟩ := List.mem_flatMap.1 member
  exact printable origin isIn char member

end ArePrintable

theorem arePrintable_indentLines {chars : List Char} (printable : ArePrintable chars) (indent : Nat)
    (atStart : Bool) : ArePrintable (indentLines indent atStart chars) := by
  induction chars generalizing atStart with
  | nil => exact printable
  | cons char rest inductionHypothesis =>
      obtain ⟨first, later⟩ := ArePrintable.cons_iff.1 printable
      have spaces := ArePrintable.replicate (by decide : isPrintable ' ' = true) indent
      unfold indentLines
      split
      · exact ArePrintable.cons_iff.2 ⟨first, inductionHypothesis later true⟩
      · split <;> simp [first, spaces, inductionHypothesis later]

theorem arePrintable_singleQuoted {chars : List Char} (printable : ArePrintable chars) (indent : Nat) :
    ArePrintable (singleQuoted indent chars) := by
  have mark : isPrintable '\'' = true := by decide
  have doubled : ArePrintable (chars.flatMap singleQuotedChar) := by
    refine .flatMap fun char member => ?_
    unfold singleQuotedChar
    split <;> simp [mark, printable char member]
  rw [singleQuoted_eq, ArePrintable.cons_iff]
  exact ⟨mark, arePrintable_indentLines (by simp [doubled, mark]) indent false⟩

theorem isPrintable_digitChar : ∀ digit < 16, isPrintable (Nat.digitChar digit).toUpper = true := by
  decide

theorem arePrintable_toDigits (value : Nat) :
    ArePrintable ((Nat.toDigits 16 value).map Char.toUpper) := by
  induction value using Nat.strongRecOn with
  | ind value inductionHypothesis =>
      rw [Nat.toDigits_eq_if (by decide)]
      split
      · next small => simp [isPrintable_digitChar value small]
      · next large =>
          have shorter := inductionHypothesis (value / 16) (by omega)
          have last := isPrintable_digitChar (value % 16) (Nat.mod_lt _ (by decide))
          simp [shorter, last]

theorem arePrintable_escaped (char : Char) : ArePrintable (escaped char) := by
  have digits (width value : Nat) : ArePrintable (hexDigits width value) := by
    simp [hexDigits, arePrintable_toDigits, (by decide : isPrintable '0' = true)]
  unfold escaped
  rw [ArePrintable.cons_iff]
  refine ⟨by decide, ?_⟩
  split
  -- What is left behind the letters are the numbers of two, four and eight digits.
  case h_16 =>
    simp only
    split
    · simp [digits, (by decide : isPrintable 'x' = true)]
    · split
      · simp [digits, (by decide : isPrintable 'u' = true)]
      · simp [digits, (by decide : isPrintable 'U' = true)]
  all_goals exact ArePrintable.cons_iff.2 ⟨by decide, .nil⟩

theorem arePrintable_doubleQuoted (chars : List Char) : ArePrintable (doubleQuoted chars) := by
  have mark : isPrintable '"' = true := by decide
  have inner : ArePrintable (chars.flatMap doubleQuotedChar) := by
    refine .flatMap fun char _ => ?_
    unfold doubleQuotedChar
    split
    case isTrue stands =>
      simp only [Bool.and_eq_true] at stands
      simp [stands.1.1.1]
    case isFalse => exact arePrintable_escaped char
  rw [doubleQuoted_eq]
  simp [mark, inner]

theorem arePrintable_blockText {chars : List Char} (printable : ArePrintable chars) (indent : Nat) :
    ArePrintable (blockText indent chars) := by
  have marks : ArePrintable (blockMarks chars) := by
    unfold blockMarks
    split <;> split <;> (try split) <;> simp [isPrintable]
  have lines := arePrintable_indentLines printable indent true
  have lineFeed : isPrintable '\n' = true := by decide
  unfold blockText
  split <;> simp [marks, lines, lineFeed, (by decide : isPrintable '|' = true)]

/-- A text in marks is printed without other characters whatever it holds. -/
theorem arePrintable_quotedText (indent : Nat) (text : String) :
    ArePrintable (quotedText indent text).toList := by
  have lineFeed : isPrintable '\n' = true := by decide
  simp only [quotedText, String.toList_ofList]
  split
  case isTrue isBlock_ =>
    simp only [isBlock, allowsBlock, Bool.and_eq_true, List.all_eq_true] at isBlock_
    exact arePrintable_blockText isBlock_.2.1.1 indent
  case isFalse =>
    split
    case isTrue allowed =>
      simp only [allowsSingleQuotes, Bool.and_eq_true, List.all_eq_true] at allowed
      simp [arePrintable_singleQuoted allowed.2.1.1, lineFeed]
    case isFalse => simp [arePrintable_doubleQuoted, lineFeed]

theorem withUniformBreaks_eq {chars : List Char} (printable : ArePrintable chars) :
    withUniformBreaks chars = chars := by
  induction chars with
  | nil => rfl
  | cons char rest inductionHypothesis =>
      obtain ⟨first, later⟩ := ArePrintable.cons_iff.1 printable
      have notReturn : char ≠ '\r' := ne_of_isPrintable first (by decide)
      have notNextLine : char ≠ '\x85' := ne_of_isPrintable first (by decide)
      rw [withUniformBreaks, if_neg (by simp [notReturn, notNextLine]), inductionHypothesis later]
      exact fun _ isReturn _ => notReturn isReturn

/-- The tokens of printable text are those of its characters as they are. -/
theorem tokens?_eq {text : String} (printable : ArePrintable text.toList) :
    tokens? text = (Lexer.start text.toList).run (text.toList.length + 1) := by
  unfold tokens?
  generalize text.toList = chars at printable
  have allowed : chars.all isAllowed = true :=
    List.all_eq_true.2 fun char member => isAllowed_of_isPrintable (printable char member)
  split
  case h_1 => exact absurd (printable _ List.mem_cons_self) (by decide)
  case h_2 => rw [if_pos allowed, withUniformBreaks_eq printable]

end ForwardTaint.Yaml
