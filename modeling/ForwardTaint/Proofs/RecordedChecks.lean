import ForwardTaint.Proofs.TestOutcomes
import ForwardTaint.Proofs.TransferMonotone
import Mathlib

/-!
What the checks of a value say of its text.  A value that passes a guard gets the checks of the
guard's atoms.  All of them are true of every text of which the atoms are, but one: an atom that
denies a part with `..` in it counts as a check for `..`, and of a part that is longer than `..`
itself that is not so.
-/

namespace ForwardTaint

namespace Text

theorem occursIn_iff {part text : List Char} : occursIn part text = true ↔ part <:+: text := by
  induction text with
  | nil => rw [occursIn, List.isEmpty_iff, List.infix_nil]
  | cons char rest inductionHypothesis =>
      rw [occursIn, Bool.or_eq_true, List.isPrefixOf_iff_prefix, inductionHypothesis,
        List.infix_cons_iff]

theorem contains_iff {part text : String} :
    contains part text = true ↔ part.toList <:+: text.toList := occursIn_iff

/-- A text has no part that contains it but itself. -/
theorem eq_of_contains {first second : String} (contained : contains first second = true)
    (contains : contains second first = true) : first = second := by
  rw [contains_iff] at contained contains
  exact String.toList_inj.1 (contained.eq_of_length_le contains.length_le)

end Text

/-- The text has passed the check.  An exact match may have been made up to case and is left
open. -/
def Check.HoldsOf (text : String) : Check → Prop
  | .exactMatch _ => True
  | .allowPrefix start => Text.beginsWith start text = true
  | .denyPrefix start =>
      ∃ literal, Text.lowercase literal = start ∧ Text.beginsWith literal text = false
  | .noTraversal => Text.contains ".." text = false
  | .noEncoding => Text.contains "%" text = false

namespace CanonicalLiteral

/-- An allowed beginning that can match is asked for as it is written. -/
theorem allowKey_of_canMatch {literal start : String} (key : allowKey literal = (start, true)) :
    start = literal := by
  obtain ⟨isStart, unchanged⟩ := Prod.mk.inj key
  rw [← isStart]
  simpa [ofText] using unchanged

/-- A denied beginning that can match is asked for in small letters. -/
theorem denyKey_of_canMatch {literal start : String} (key : denyKey literal = (start, true)) :
    Text.lowercase literal = start := by
  obtain ⟨isStart, unchanged⟩ := Prod.mk.inj key
  have same : (ofText literal).value = literal := by simpa [ofText] using unchanged
  rw [← isStart, same]

end CanonicalLiteral

namespace GuardAtom

variable {fold : Char → Char} {text : String} {atom : GuardAtom}

/-- The text passes the atom, if the atom compares with a known text. -/
def HoldsOf (fold : Char → Char) (text : String) (atom : GuardAtom) : Prop :=
  ∀ known, atom.operand.knownValue? = some known →
    atom.operator.succeeds fold (.text text) (.text known) = !atom.negated

/-- The atom says that the part does not occur. -/
structure Denies (atom : GuardAtom) (part : String) : Prop where
  operator : atom.operator = .contains
  negated : atom.negated = true
  operand : atom.operand.knownValue? = some part

/-- A text that passes the atom does not contain the part that the atom denies. -/
theorem Denies.absent {part : String} (denies : atom.Denies part) (holds : atom.HoldsOf fold text) :
    Text.contains part text = false := by
  have fails := holds part denies.operand
  rw [denies.operator, denies.negated] at fails
  exact fails

/-- A check for `..` is made by atoms that deny a part with `..` in it. -/
theorem check?_noTraversal_iff :
    atom.check? = some .noTraversal ↔
      ∃ part, Text.contains ".." part = true ∧ atom.Denies part := by
  constructor
  · intro makes
    unfold check? at makes
    split at makes
    case h_1 => exact nomatch (Option.ite_none_right_eq_some.1 makes).2
    case h_2 => exact nomatch (Option.ite_none_right_eq_some.1 makes).2
    case h_3 part isContains isNegated known =>
      split at makes
      · rename_i traversal
        exact ⟨part, traversal, isContains, isNegated, known⟩
      · exact nomatch (Option.ite_none_right_eq_some.1 makes).2
    case h_4 => exact nomatch makes
    case h_5 => exact nomatch makes
    case h_6 => exact nomatch makes
  · rintro ⟨part, traversal, isContains, isNegated, known⟩
    rw [check?, isContains, isNegated, known]
    exact if_pos traversal

/-- A check that is not for `..` is true of every text that passes the atom. -/
theorem holdsOf_of_check? {check : Check} (makes : atom.check? = some check)
    (different : check ≠ .noTraversal) (holds : atom.HoldsOf fold text) : check.HoldsOf text := by
  unfold check? at makes
  split at makes
  case h_1 literal isStartsWith isNegated known =>
    have begins := holds literal known
    rw [isStartsWith, isNegated] at begins
    cases key : CanonicalLiteral.allowKey literal with
    | mk start canMatch =>
        simp only [key, Option.ite_none_right_eq_some, Option.some_inj] at makes
        obtain ⟨rfl, rfl⟩ := makes
        rw [CanonicalLiteral.allowKey_of_canMatch key]
        exact begins
  case h_2 literal isStartsWith isNegated known =>
    have begins := holds literal known
    rw [isStartsWith, isNegated] at begins
    cases key : CanonicalLiteral.denyKey literal with
    | mk start canMatch =>
        simp only [key, Option.ite_none_right_eq_some, Option.some_inj] at makes
        obtain ⟨rfl, rfl⟩ := makes
        exact ⟨literal, CanonicalLiteral.denyKey_of_canMatch key, begins⟩
  case h_3 part isContains isNegated known =>
    split at makes
    · exact absurd (Option.some.inj makes).symm different
    · split at makes
      · rename_i isEscape
        cases makes
        exact Denies.absent ⟨isContains, isNegated, isEscape ▸ known⟩ holds
      · exact nomatch makes
  case h_4 =>
    cases makes
    trivial
  case h_5 =>
    cases makes
    trivial
  case h_6 => exact nomatch makes

/-- Only an atom that denies escapes makes a history canonical. -/
theorem denies_of_refineProcessing {processing : Processing}
    (canonical : (atom.refineProcessing processing).decode = .canonical) :
    processing.decode = .canonical ∨ atom.Denies "%" := by
  unfold refineProcessing at canonical
  split at canonical
  case h_1 part isContains isNegated known =>
    split at canonical
    · rename_i isEscape
      obtain ⟨-, isEscape⟩ := Bool.and_eq_true_iff.1 isEscape
      exact .inr ⟨isContains, isNegated, eq_of_beq isEscape ▸ known⟩
    · exact .inl canonical
  case h_2 =>
    split at canonical <;> exact .inl canonical
  case h_3 => exact .inl canonical

/-- A value that has become canonical by atoms has no escapes. -/
theorem denies_of_applyAll {atoms : List GuardAtom} {value : TaintValue}
    (canonical : (applyAll value atoms).processing.decode = .canonical) :
    value.processing.decode = .canonical ∨ ∃ atom ∈ atoms, atom.Denies "%" := by
  induction atoms generalizing value with
  | nil => exact .inl canonical
  | cons atom atoms inductionHypothesis =>
      rw [applyAll, List.foldl_cons, ← applyAll] at canonical
      rcases inductionHypothesis canonical with before | ⟨other, member, denies⟩
      · rw [apply_eq] at before
        refine (denies_of_refineProcessing before).imp id fun denies => ?_
        exact ⟨atom, List.mem_cons_self, denies⟩
      · exact .inr ⟨other, List.mem_cons_of_mem _ member, denies⟩

/-- Checks that atoms add are true of every text that passes the atoms, except a check for `..` that
comes from longer denied parts only; and a value becomes canonical only when its text has no
escapes. -/
theorem applyAll_checks_hold (fold : Char → Char) (value : TaintValue) (atoms : List GuardAtom)
    (text : String) (had : ∀ check ∈ value.checks, check.HoldsOf text)
    (passes : ∀ atom ∈ atoms, atom.HoldsOf fold text) :
    (∀ check ∈ (applyAll value atoms).checks, check.HoldsOf text ∨
      check = .noTraversal ∧ check ∉ value.checks ∧ (∀ atom ∈ atoms, ¬atom.Denies "..") ∧
        ∃ atom ∈ atoms, ∃ part, Text.contains ".." part = true ∧ atom.Denies part ∧
          Text.contains part text = false) ∧
    (value.processing.decode ≠ .canonical →
      (applyAll value atoms).processing.decode = .canonical → Text.contains "%" text = false) := by
  constructor
  · intro check member
    by_cases isFact : check.HoldsOf text
    · exact .inl isFact
    · refine .inr ?_
      rcases mem_applyAll.1 member with own | ⟨atom, among, makes⟩
      · exact absurd (had check own) isFact
      · have isTraversal : check = .noTraversal := by
          by_contra different
          exact isFact (holdsOf_of_check? makes different (passes atom among))
        subst isTraversal
        obtain ⟨part, traversal, denies⟩ := check?_noTraversal_iff.1 makes
        refine ⟨rfl, fun own => isFact (had _ own), ?_, atom, among, part, traversal, denies, ?_⟩
        · exact fun other among deniesDots => isFact (deniesDots.absent (passes other among))
        · exact denies.absent (passes atom among)
  · intro before canonical
    obtain ⟨atom, among, denies⟩ := (denies_of_applyAll canonical).resolve_left before
    exact denies.absent (passes atom among)

/-- An atom's check for `..` is true of all texts that pass the atom only if it denies `..`. -/
theorem noTraversal_holds_iff {part : String} (traversal : Text.contains ".." part = true)
    (denies : atom.Denies part) :
    (∀ text, atom.HoldsOf fold text → Check.noTraversal.HoldsOf text) ↔ part = ".." := by
  constructor
  · intro isFact
    by_contra longer
    have passes : atom.HoldsOf fold ".." := by
      intro known isKnown
      obtain rfl : part = known := Option.some.inj (denies.operand.symm.trans isKnown)
      rw [denies.operator, denies.negated]
      exact Bool.eq_false_iff.2 fun contained => longer (Text.eq_of_contains contained traversal)
    have absent : Text.contains ".." ".." = false := isFact ".." passes
    exact absurd absent (by decide)
  · rintro rfl text passes
    exact denies.absent passes

end GuardAtom

namespace GuardedPages

/-- The path lies below the pages, and a part is denied. -/
def atoms (part : String) : List GuardAtom :=
  [⟨"path", .startsWith, .literal "/pages/", false⟩, ⟨"path", .contains, .literal part, true⟩]

/-- A text below the pages without the part passes. -/
theorem passes {part text : String} (below : Text.beginsWith "/pages/" text = true)
    (absent : Text.contains part text = false) : ∀ atom ∈ atoms part, atom.HoldsOf id text := by
  refine List.forall_mem_cons.2 ⟨?_, List.forall_mem_singleton.2 ?_⟩
  · intro known isKnown
    cases isKnown
    exact below
  · intro known isKnown
    cases isKnown
    exact absent

/-- A tainted value that is fully decoded. -/
def decoded : TaintValue := ⟨.tainted, ⟨.canonical, false, false, false, false⟩, .empty⟩

/-- The test for a path below the pages without `/../x`. -/
def guard : GuardCondition := ⟨0, "isPage(path)", .zero, atoms "/../x", [], [], none⟩

/-- A path that leaves the pages passes the guard, and then counts as free of `..` and protected. -/
theorem leaving_path_counts_as_confined :
    (∀ check ∈ decoded.checks, check.HoldsOf "/pages/../WEB-INF/web.xml") ∧
    (∀ atom ∈ atoms "/../x", atom.HoldsOf id "/pages/../WEB-INF/web.xml") ∧
    Check.noTraversal ∈ (GuardAtom.applyAll decoded (atoms "/../x")).checks ∧
    ¬Check.noTraversal.HoldsOf "/pages/../WEB-INF/web.xml" ∧
    ((BarrierRegistry.standard ⟨false⟩).evaluate guard true "path" (atoms "/../x")
      (GuardAtom.applyAll decoded (atoms "/../x"))).verdict = .effective := by
  refine ⟨(nomatch · , ·), passes (by decide) (by decide), by decide, fun absent => ?_, by cbv⟩
  have occurs : Text.contains ".." "/pages/../WEB-INF/web.xml" = true := by decide
  exact absurd (occurs.symm.trans absent) (by decide)

/-- A raw value that is known not to begin with `/WEB-INF/`. -/
def denied : TaintValue :=
  ⟨.tainted, .fresh, CheckSet.empty.insert (.denyPrefix "/web-inf/")⟩

/-- A page without escapes passes the guard that denies them, and all that is recorded then is
true. -/
theorem checks_hold_of_page :
    (∀ check ∈ denied.checks, check.HoldsOf "/pages/home") ∧
    (∀ atom ∈ atoms "%", atom.HoldsOf id "/pages/home") ∧
    (∀ check ∈ (GuardAtom.applyAll denied (atoms "%")).checks, check.HoldsOf "/pages/home") ∧
    (GuardAtom.applyAll denied (atoms "%")).processing.decode = .canonical ∧
    Text.contains "%" "/pages/home" = false := by
  have had : ∀ check ∈ denied.checks, check.HoldsOf "/pages/home" := by
    intro check member
    obtain rfl : check = .denyPrefix "/web-inf/" :=
      (CheckSet.mem_insert.1 member).resolve_right (CheckSet.not_mem_empty check)
    exact ⟨"/WEB-INF/", by cbv, by decide⟩
  have pass : ∀ atom ∈ atoms "%", atom.HoldsOf id "/pages/home" := passes (by decide) (by decide)
  obtain ⟨hold, withoutEscapes⟩ := GuardAtom.applyAll_checks_hold id denied (atoms "%") _ had pass
  have canonical : (GuardAtom.applyAll denied (atoms "%")).processing.decode = .canonical := by
    decide
  refine ⟨had, pass, fun check member => (hold check member).resolve_right ?_, canonical,
    withoutEscapes (by decide) canonical⟩
  rintro ⟨rfl, -⟩
  exact absurd member (by decide)

end GuardedPages

end ForwardTaint
