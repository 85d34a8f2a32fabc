import ForwardTaint.Text.Lowercase
import Mathlib

/-!
Texts in small letters.  What lower-casing makes consists of small letters, which it leaves alone, so
that doing it again changes nothing; characters in front of the small letters are made of themselves
only.  Its one dependence on neighbours is the capital sigma.
-/

namespace ForwardTaint.Text

/-- The code points of a run of capital letters. -/
def runCodes (run : Nat × Nat × Nat × Int) : List Nat :=
  (List.range ((run.2.1 - run.1) / run.2.2.1 + 1)).map fun number => run.1 + run.2.2.1 * number

/-- The code points of the capital letters. -/
def capitalCodes : List Nat := capitalRuns.flatMap runCodes

/-- The code points of their small letters. -/
def smallCodes : List Nat :=
  capitalRuns.flatMap fun run =>
    (runCodes run).map fun (code : Nat) => ((code : Int) + run.2.2.2).toNat

/-- A number with the bits of a list set. -/
def bitSet (numbers : List Nat) : Nat := numbers.foldr (fun number set => set ||| 1 <<< number) 0

theorem testBit_bitSet (numbers : List Nat) (number : Nat) :
    (bitSet numbers).testBit number = decide (number ∈ numbers) := by
  induction numbers with
  | nil => simp [bitSet]
  | cons first numbers inductionHypothesis =>
      change (bitSet numbers ||| 1 <<< first).testBit number = _
      rw [Nat.testBit_or, inductionHypothesis, Nat.one_shiftLeft, Nat.testBit_two_pow]
      simp only [List.mem_cons, Bool.decide_or, eq_comm, Bool.or_comm]

theorem not_mem_of_land_bitSet {first second : List Nat} (apart : bitSet first &&& bitSet second = 0)
    {number : Nat} (member : number ∈ second) : number ∉ first := by
  intro inFirst
  have bit := congrArg (Nat.testBit · number) apart
  simp [Nat.testBit_and, testBit_bitSet, member, inFirst] at bit

/-- No letter is both capital and small.  The lists are compared by their bits, which takes one step
for each letter and not one for each pair. -/
theorem not_mem_capitalCodes {code : Nat} (member : code ∈ smallCodes) : code ∉ capitalCodes :=
  not_mem_of_land_bitSet (by decide +kernel) member

/-- Small letters are characters from the small `a` on, and none is the dotted capital I. -/
theorem smallCodes_bounds :
    ∀ code ∈ smallCodes, 0x61 ≤ code ∧ code.isValidChar ∧ code ≠ 0x130 := by
  decide +kernel

/-- Lower-casing leaves the character alone. -/
def IsSmall (char : Char) : Prop := lowercaseChar char = [char]

instance (char : Char) : Decidable (IsSmall char) := inferInstanceAs (Decidable (_ = _))

/-- Whether a code point is in a run of capital letters. -/
def inRun (code : Nat) (run : Nat × Nat × Nat × Int) : Bool :=
  run.1 ≤ code && code ≤ run.2.1 && (code - run.1) % run.2.2.1 == 0

theorem mem_runCodes {run : Nat × Nat × Nat × Int} {code : Nat} (inside : inRun code run = true) :
    code ∈ runCodes run := by
  simp only [inRun, Bool.and_eq_true, decide_eq_true_eq, beq_iff_eq] at inside
  obtain ⟨⟨above, below⟩, distance⟩ := inside
  refine List.mem_map.2 ⟨(code - run.1) / run.2.2.1, List.mem_range.2 ?_, ?_⟩
  · exact Nat.lt_succ_of_le (Nat.div_le_div_right (Nat.sub_le_sub_right below _))
  · have whole := Nat.div_add_mod (code - run.1) run.2.2.1
    omega

/-- The small form of a character outside ASCII is looked up in the table. -/
theorem lowercaseChar_of_wide {char : Char} (wide : ¬char.toNat < 0x80)
    (notDotted : char.toNat ≠ 0x130) :
    lowercaseChar char = match capitalRuns.find? (inRun char.toNat) with
      | some run => [Char.ofNat ((char.toNat : Int) + run.2.2.2).toNat]
      | none => [char] := by
  rw [lowercaseChar, if_neg wide, if_neg notDotted]
  rfl

/-- The ASCII letters with a small form are among the capital letters. -/
theorem toLower_ascii : ∀ code < 0x80,
    (Char.ofNat code).toLower = Char.ofNat code ∨
      code ∈ capitalCodes ∧ (Char.ofNat code).toLower.toNat ∈ smallCodes := by
  decide +kernel

/-- Characters that are not capital letters are small. -/
theorem isSmall_of_not_capital {char : Char} (notCapital : char.toNat ∉ capitalCodes)
    (notDotted : char.toNat ≠ 0x130) : IsSmall char := by
  by_cases ascii : char.toNat < 0x80
  · have kept := (toLower_ascii _ ascii).resolve_right fun both => notCapital both.1
    rw [Char.ofNat_toNat] at kept
    rw [IsSmall, lowercaseChar, if_pos ascii, kept]
  · have absent : capitalRuns.find? (inRun char.toNat) = none := List.find?_eq_none.2
      fun run member inside => notCapital (List.mem_flatMap.2 ⟨run, member, mem_runCodes inside⟩)
    rw [IsSmall, lowercaseChar_of_wide ascii notDotted, absent]

/-- A character is in small form already, or it is a capital letter and its small form is one or, of
the dotted capital I, two characters. -/
theorem lowercaseChar_cases (char : Char) :
    (∃ small : Char, lowercaseChar char = [small] ∧
      (small = char ∨ small.toNat ∈ smallCodes)) ∨
      char = 'İ' ∧ lowercaseChar char = ['i', '\u0307'] := by
  by_cases ascii : char.toNat < 0x80
  · have lower := toLower_ascii _ ascii
    rw [Char.ofNat_toNat] at lower
    rw [lowercaseChar, if_pos ascii]
    exact .inl ⟨_, rfl, lower.imp id And.right⟩
  · by_cases dotted : char.toNat = 0x130
    · obtain rfl : char = 'İ' := by rw [← Char.ofNat_toNat char, dotted]
      exact .inr ⟨rfl, by decide⟩
    · rw [lowercaseChar_of_wide ascii dotted]
      split
      · rename_i run found
        refine .inl ⟨_, rfl, .inr ?_⟩
        have isSmall : ((char.toNat : Int) + run.2.2.2).toNat ∈ smallCodes :=
          List.mem_flatMap.2 ⟨run, List.mem_of_find?_eq_some found,
            List.mem_map.2 ⟨char.toNat, mem_runCodes (List.find?_some found), rfl⟩⟩
        rwa [Char.toNat_ofNat, if_pos (smallCodes_bounds _ isSmall).2.1]
      · exact .inl ⟨char, rfl, .inl rfl⟩

theorem isSmall_of_mem_smallCodes {char : Char} (small : char.toNat ∈ smallCodes) : IsSmall char :=
  isSmall_of_not_capital (not_mem_capitalCodes small) (smallCodes_bounds _ small).2.2

/-- The small form of a character is small. -/
theorem isSmall_of_mem_lowercaseChar {small char : Char} (member : small ∈ lowercaseChar char) :
    IsSmall small := by
  rcases lowercaseChar_cases char with ⟨other, single, isSmall⟩ | ⟨-, double⟩
  · rw [single, List.mem_singleton] at member
    subst member
    rcases isSmall with rfl | isSmall
    · exact single
    · exact isSmall_of_mem_smallCodes isSmall
  · rw [double] at member
    rcases List.mem_cons.1 member with rfl | later
    · decide
    · rw [List.mem_singleton.1 later]
      decide

/-- A small form that stands before the small letters is the character itself. -/
theorem eq_of_mem_lowercaseChar {small char : Char} (member : small ∈ lowercaseChar char)
    (low : small.toNat < 0x61) : small = char := by
  rcases lowercaseChar_cases char with ⟨other, single, isSmall⟩ | ⟨-, double⟩
  · rw [single, List.mem_singleton] at member
    subst member
    refine isSmall.resolve_right fun code => ?_
    exact absurd (smallCodes_bounds _ code).1 (Nat.not_le.2 low)
  · rw [double] at member
    rcases List.mem_cons.1 member with rfl | later
    · exact absurd low (by decide)
    · rw [List.mem_singleton.1 later] at low
      exact absurd low (by decide)

/-- The small form of a character between others. -/
def smallForm (before : List Char) (char : Char) (rest : List Char) : List Char :=
  if char == 'Σ' then if nextIsCased before && !nextIsCased rest then ['ς'] else ['σ']
  else lowercaseChar char

theorem lowercaseFrom_cons (before : List Char) (char : Char) (rest : List Char) :
    lowercaseFrom before (char :: rest) =
      smallForm before char rest ++ lowercaseFrom (char :: before) rest := rfl

/-- The small form depends on the neighbours of a sigma only. -/
theorem smallForm_cases (before : List Char) (char : Char) (rest : List Char) :
    smallForm before char rest = lowercaseChar char ∧ char ≠ 'Σ' ∨
      char = 'Σ' ∧ (smallForm before char rest = ['σ'] ∨ smallForm before char rest = ['ς']) := by
  unfold smallForm
  by_cases sigma : char = 'Σ'
  · rw [if_pos (beq_iff_eq.2 sigma)]
    refine .inr ⟨sigma, ?_⟩
    split
    · exact .inr rfl
    · exact .inl rfl
  · rw [if_neg (mt beq_iff_eq.1 sigma)]
    exact .inl ⟨rfl, sigma⟩

/-- Between others a character may become a small sigma, and else what it becomes alone. -/
theorem mem_smallForm {before rest : List Char} {small char : Char}
    (member : small ∈ smallForm before char rest) :
    small ∈ lowercaseChar char ∨ small = 'σ' ∨ small = 'ς' := by
  rcases smallForm_cases before char rest with ⟨alone, -⟩ | ⟨-, form | form⟩
  · exact .inl (alone ▸ member)
  · exact .inr (.inl (List.mem_singleton.1 (form ▸ member)))
  · exact .inr (.inr (List.mem_singleton.1 (form ▸ member)))

theorem isSmall_of_mem_smallForm {before rest : List Char} {small char : Char}
    (member : small ∈ smallForm before char rest) : IsSmall small := by
  rcases mem_smallForm member with alone | rfl | rfl
  · exact isSmall_of_mem_lowercaseChar alone
  · decide
  · decide

/-- A text in small letters consists of small letters. -/
theorem isSmall_of_mem_lowercaseFrom {before text : List Char} {char : Char}
    (member : char ∈ lowercaseFrom before text) : IsSmall char := by
  induction text generalizing before with
  | nil => exact absurd member List.not_mem_nil
  | cons first rest inductionHypothesis =>
      rw [lowercaseFrom_cons, List.mem_append] at member
      exact member.elim isSmall_of_mem_smallForm inductionHypothesis

theorem smallForm_of_isSmall {before rest : List Char} {char : Char} (small : IsSmall char) :
    smallForm before char rest = [char] := by
  rcases smallForm_cases before char rest with ⟨alone, -⟩ | ⟨rfl, -⟩
  · exact alone.trans small
  · exact absurd small (by decide)

/-- Small letters in front are left alone. -/
theorem lowercaseFrom_append_of_isSmall {text : List Char} (small : ∀ char ∈ text, IsSmall char)
    (before rest : List Char) :
    lowercaseFrom before (text ++ rest) = text ++ lowercaseFrom (text.reverse ++ before) rest := by
  induction text generalizing before with
  | nil => rfl
  | cons char text inductionHypothesis =>
      rw [List.cons_append, lowercaseFrom_cons, smallForm_of_isSmall (small char List.mem_cons_self),
        inductionHypothesis fun other member => small other (List.mem_cons_of_mem _ member)]
      simp

theorem lowercaseFrom_of_isSmall {text : List Char} (small : ∀ char ∈ text, IsSmall char)
    (before : List Char) : lowercaseFrom before text = text := by
  have alone := lowercaseFrom_append_of_isSmall small before []
  rwa [List.append_nil, lowercaseFrom, List.append_nil] at alone

/-- A small form is one character or that of the dotted capital I. -/
theorem smallForm_shape (before : List Char) (char : Char) (rest : List Char) :
    (∃ small, smallForm before char rest = [small]) ∨
      char = 'İ' ∧ smallForm before char rest = ['i', '\u0307'] := by
  rcases smallForm_cases before char rest with ⟨alone, -⟩ | ⟨-, form | form⟩
  · rw [alone]
    exact (lowercaseChar_cases char).imp_left fun ⟨small, single, _⟩ => ⟨small, single⟩
  · exact .inl ⟨_, form⟩
  · exact .inl ⟨_, form⟩

theorem eq_of_mem_smallForm {before rest : List Char} {small char : Char}
    (member : small ∈ smallForm before char rest) (low : small.toNat < 0x61) : small = char := by
  rcases mem_smallForm member with alone | rfl | rfl
  · exact eq_of_mem_lowercaseChar alone low
  · exact absurd low (by decide)
  · exact absurd low (by decide)

/-- A text in small letters begins with characters from before the small letters only if the text
does. -/
theorem prefix_of_prefix_lowercaseFrom {part before text : List Char}
    (low : ∀ char ∈ part, char.toNat < 0x61) (begins : part <+: lowercaseFrom before text) :
    part <+: text := by
  induction part generalizing before text with
  | nil => exact List.nil_prefix
  | cons first part inductionHypothesis =>
      have lowFirst := low first List.mem_cons_self
      have lowPart := fun char member => low char (List.mem_cons_of_mem first member)
      cases text with
      | nil => exact begins
      | cons char rest =>
          rw [lowercaseFrom_cons] at begins
          rcases smallForm_shape before char rest with ⟨small, form⟩ | ⟨-, form⟩
          · rw [form, List.singleton_append, List.cons_prefix_cons] at begins
            obtain ⟨rfl, later⟩ := begins
            have same : first = char :=
              eq_of_mem_smallForm (form ▸ List.mem_singleton_self first) lowFirst
            exact List.cons_prefix_cons.2 ⟨same, inductionHypothesis lowPart later⟩
          · rw [form, List.cons_append, List.cons_prefix_cons] at begins
            rw [begins.1] at lowFirst
            exact absurd lowFirst (by decide)

/-- Characters from before the small letters occur in a text in small letters only where they occur
in the text. -/
theorem infix_of_infix_lowercaseFrom {part before text : List Char}
    (low : ∀ char ∈ part, char.toNat < 0x61) (some : part ≠ [])
    (within : part <:+: lowercaseFrom before text) : part <:+: text := by
  have notBehind {char : Char} (high : ¬char.toNat < 0x61) (rest : List Char) :
      ¬part <+: char :: rest := by
    cases part with
    | nil => exact absurd rfl some
    | cons first part =>
        intro begins
        exact high ((List.cons_prefix_cons.1 begins).1 ▸ low first List.mem_cons_self)
  induction text generalizing before with
  | nil => exact within
  | cons char rest inductionHypothesis =>
      by_cases begins : part <+: lowercaseFrom before (char :: rest)
      · exact (prefix_of_prefix_lowercaseFrom low begins).isInfix
      · rw [lowercaseFrom_cons] at within begins
        have withinRest : part <:+: lowercaseFrom (char :: before) rest := by
          rcases smallForm_shape before char rest with ⟨small, form⟩ | ⟨-, form⟩
          · rw [form] at within begins
            exact (List.infix_cons_iff.1 within).resolve_left begins
          · rw [form] at within begins
            have later := (List.infix_cons_iff.1 within).resolve_left begins
            exact (List.infix_cons_iff.1 later).resolve_left (notBehind (by decide) _)
        exact List.infix_cons_iff.2 (.inr (inductionHypothesis withinRest))

/-- Without a capital sigma the characters are lower-cased one by one. -/
theorem lowercaseFrom_of_no_sigma {text : List Char} (noSigma : 'Σ' ∉ text) (before : List Char) :
    lowercaseFrom before text = text.flatMap lowercaseChar := by
  induction text generalizing before with
  | nil => rfl
  | cons char rest inductionHypothesis =>
      have notSigma : char ≠ 'Σ' := fun same => noSigma (same ▸ List.mem_cons_self)
      have alone : smallForm before char rest = lowercaseChar char :=
        ((smallForm_cases before char rest).resolve_right fun sigma => notSigma sigma.1).1
      rw [lowercaseFrom_cons, alone, List.flatMap_cons,
        inductionHypothesis (mt (List.mem_cons_of_mem _) noSigma)]

theorem length_lowercaseFrom (before text : List Char) :
    (lowercaseFrom before text).length = (text.flatMap lowercaseChar).length := by
  induction text generalizing before with
  | nil => rfl
  | cons char rest inductionHypothesis =>
      have formLength : (smallForm before char rest).length = (lowercaseChar char).length := by
        rcases smallForm_cases before char rest with ⟨alone, -⟩ | ⟨rfl, form | form⟩
        · rw [alone]
        · rw [form]
          decide
        · rw [form]
          decide
      rw [lowercaseFrom_cons, List.flatMap_cons, List.length_append, List.length_append, formLength,
        inductionHypothesis]

/-- Beginnings of one text with the same small form are the same. -/
theorem eq_of_prefix_of_lowercaseFrom {first second text : List Char} (begins : first <+: text)
    (begins' : second <+: text) (same : lowercaseFrom [] first = lowercaseFrom [] second) :
    first = second := by
  have shorter {first second : List Char} (within : first <+: second)
      (same : lowercaseFrom [] first = lowercaseFrom [] second) : first = second := by
    obtain ⟨rest, rfl⟩ := within
    have lengths := congrArg List.length same
    rw [length_lowercaseFrom, length_lowercaseFrom, List.flatMap_append, List.length_append] at lengths
    have nothing : rest.flatMap lowercaseChar = [] := List.length_eq_zero_iff.1 (by omega)
    cases rest with
    | nil => rw [List.append_nil]
    | cons char rest =>
        have empty := List.flatMap_eq_nil_iff.1 nothing char List.mem_cons_self
        rcases lowercaseChar_cases char with ⟨small, single, -⟩ | ⟨-, double⟩
        · exact absurd (single.symm.trans empty) (List.cons_ne_nil _ _)
        · exact absurd (double.symm.trans empty) (List.cons_ne_nil _ _)
  rcases List.prefix_or_prefix_of_prefix begins begins' with within | within
  · exact shorter within same
  · exact (shorter within same.symm).symm

/-- Where the small form of a text begins as the text itself does not, a capital letter stands for
one of the small letters. -/
theorem exists_capital {start before text : List Char} (begins : start <+: lowercaseFrom before text)
    (noSigma : 'Σ' ∉ text ∨ 'σ' ∉ start ∧ 'ς' ∉ start) (different : ¬start <+: text) :
    ∃ char ∈ start, ∃ capital, capital ≠ char ∧ capital ≠ 'Σ' ∧ lowercaseChar capital = [char] := by
  induction start generalizing before text with
  | nil => exact absurd List.nil_prefix different
  | cons char start inductionHypothesis =>
      cases text with
      | nil => exact absurd begins different
      | cons first rest =>
          rw [lowercaseFrom_cons] at begins
          rcases smallForm_cases before first rest with ⟨alone, notSigma⟩ | ⟨rfl, form⟩
          · rcases lowercaseChar_cases first with ⟨small, single, -⟩ | ⟨-, double⟩
            · rw [alone, single, List.singleton_append, List.cons_prefix_cons] at begins
              obtain ⟨rfl, later⟩ := begins
              by_cases isSame : first = char
              · subst isSame
                have differentLater : ¬start <+: rest := fun same =>
                  different (List.cons_prefix_cons.2 ⟨rfl, same⟩)
                have noSigmaLater : 'Σ' ∉ rest ∨ 'σ' ∉ start ∧ 'ς' ∉ start :=
                  noSigma.imp (mt (List.mem_cons_of_mem _)) fun absent =>
                    ⟨mt (List.mem_cons_of_mem _) absent.1, mt (List.mem_cons_of_mem _) absent.2⟩
                obtain ⟨other, member, found⟩ :=
                  inductionHypothesis later noSigmaLater differentLater
                exact ⟨other, List.mem_cons_of_mem _ member, found⟩
              · exact ⟨char, List.mem_cons_self, first, isSame, notSigma, single⟩
            · rw [alone, double, List.cons_append, List.cons_prefix_cons] at begins
              exact ⟨char, List.mem_cons_self, 'I', begins.1 ▸ by decide, by decide,
                begins.1 ▸ by decide⟩
          · have isSigma : char = 'σ' ∨ char = 'ς' := by
              rcases form with form | form <;> rw [form, List.singleton_append] at begins
              · exact .inl (List.cons_prefix_cons.1 begins).1
              · exact .inr (List.cons_prefix_cons.1 begins).1
            have absent := noSigma.resolve_left fun none => none List.mem_cons_self
            rcases isSigma with rfl | rfl
            · exact absurd List.mem_cons_self absent.1
            · exact absurd List.mem_cons_self absent.2

/-- A small text with a letter that has a capital is the small form of a text that is not small. -/
theorem exists_not_small {start : List Char} (small : ∀ char ∈ start, IsSmall char)
    {char capital : Char} (member : char ∈ start) (different : capital ≠ char)
    (notSigma : capital ≠ 'Σ') (single : lowercaseChar capital = [char]) :
    ∃ text, lowercaseFrom [] text = start ∧ ∃ other ∈ text, ¬IsSmall other := by
  have alone {part : List Char} (small : ∀ char ∈ part, IsSmall char) :
      'Σ' ∉ part ∧ part.flatMap lowercaseChar = part := by
    have noSigma : 'Σ' ∉ part := fun sigma => absurd (small _ sigma) (by decide)
    exact ⟨noSigma, (lowercaseFrom_of_no_sigma noSigma []).symm.trans
      (lowercaseFrom_of_isSmall small [])⟩
  obtain ⟨before, after, rfl⟩ := List.append_of_mem member
  obtain ⟨noSigmaBefore, smallBefore⟩ := alone fun other among =>
    small other (List.mem_append_left _ among)
  obtain ⟨noSigmaAfter, smallAfter⟩ := alone fun other among =>
    small other (List.mem_append_right _ (List.mem_cons_of_mem _ among))
  refine ⟨before ++ capital :: after, ?_, capital, by simp, fun isSmall => different ?_⟩
  · rw [lowercaseFrom_of_no_sigma (by simp [noSigmaBefore, noSigmaAfter, Ne.symm notSigma]),
      List.flatMap_append, List.flatMap_cons, smallBefore, smallAfter, single, List.singleton_append]
  · exact List.singleton_inj.1 (isSmall.symm.trans single)

/-- If a text does not begin with some text that has a given small form, neither does its own small
form, unless a capital sigma of it may have become a sigma of that form. -/
theorem exists_not_prefix_lowercaseFrom {text start : List Char}
    (other : ∃ literal, lowercaseFrom [] literal = start ∧ ¬literal <+: text)
    (noSigma : 'Σ' ∉ text ∨ 'σ' ∉ start ∧ 'ς' ∉ start) :
    ∃ literal, lowercaseFrom [] literal = start ∧ ¬literal <+: lowercaseFrom [] text := by
  by_contra none
  have begins (literal : List Char) (isForm : lowercaseFrom [] literal = start) :
      literal <+: lowercaseFrom [] text ∧ ∀ char ∈ literal, IsSmall char := by
    have isPrefix : literal <+: lowercaseFrom [] text := by
      by_contra notPrefix
      exact none ⟨literal, isForm, notPrefix⟩
    exact ⟨isPrefix, fun char member => isSmall_of_mem_lowercaseFrom (isPrefix.subset member)⟩
  obtain ⟨literal, isForm, different⟩ := other
  obtain ⟨isPrefix, small⟩ := begins literal isForm
  obtain rfl : literal = start := (lowercaseFrom_of_isSmall small []).symm.trans isForm
  obtain ⟨char, member, capital, isOther, notSigma, single⟩ :=
    exists_capital isPrefix noSigma different
  obtain ⟨changed, sameForm, letter, among, notSmall⟩ :=
    exists_not_small small member isOther notSigma single
  exact notSmall ((begins changed sameForm).2 letter among)

end ForwardTaint.Text
