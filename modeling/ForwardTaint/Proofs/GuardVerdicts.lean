import ForwardTaint.Proofs.TransferMonotone
import Mathlib

/-!
What the rules for forwarded paths find of guards, said of the atoms and of what is recorded of the
value: which guards they find effective, that a lower value never makes a guard less effective, and
what becomes of a value that got through because it is encoded.  The rule for such values is not
registered for decoded ones, whose mark for escapes changes nothing.
-/

namespace ForwardTaint

namespace TaintValue

theorem hasAllowPrefix_iff {value : TaintValue} :
    value.hasAllowPrefix = true ↔ ∃ start, .allowPrefix start ∈ value.checks := by
  rw [hasAllowPrefix, List.any_eq_true]
  constructor
  · rintro ⟨check, member, isAllowed⟩
    cases check with
    | allowPrefix start => exact ⟨start, member⟩
    | _ => cases isAllowed
  · rintro ⟨start, member⟩
    exact ⟨.allowPrefix start, member, rfl⟩

theorem hasDenyPrefix_iff {value : TaintValue} :
    value.hasDenyPrefix = true ↔ ∃ start, .denyPrefix start ∈ value.checks := by
  rw [hasDenyPrefix, List.any_eq_true]
  constructor
  · rintro ⟨check, member, isDenied⟩
    cases check with
    | denyPrefix start => exact ⟨start, member⟩
    | _ => cases isDenied
  · rintro ⟨start, member⟩
    exact ⟨.denyPrefix start, member, rfl⟩

theorem backs_iff {value : TaintValue} {atom : GuardAtom} :
    value.Backs atom ↔ ∃ start,
      (if atom.negated then Check.denyPrefix start else .allowPrefix start) ∈ value.checks := by
  unfold Backs
  split
  · exact hasDenyPrefix_iff
  · exact hasAllowPrefix_iff

theorem isConfined_iff {value : TaintValue} {options : BarrierOptions} :
    value.IsConfined options ↔
      (∃ start, .allowPrefix start ∈ value.checks) ∧
          (.noTraversal ∈ value.checks ∨ value.processing.normalized = true) ∨
        (¬∃ start, .allowPrefix start ∈ value.checks) ∧
          (∃ start, .denyPrefix start ∈ value.checks) ∧ .noTraversal ∈ value.checks ∧
          (value.processing.caseFolded = true ∨ options.caseInsensitiveDispatch = false) := by
  rw [IsConfined, ← Bool.not_eq_true, hasAllowPrefix_iff, hasDenyPrefix_iff]

end TaintValue

namespace BarrierVerdict

theorem isEffective_iff {verdict : BarrierVerdict} :
    verdict.isEffective = true ↔ verdict = .effective := beq_iff_eq

end BarrierVerdict

namespace BarrierRule

theorem isNonCanonicalPrefix_iff {atom : GuardAtom} :
    isNonCanonicalPrefix atom = true ↔ ∃ literal, atom.operator = .startsWith ∧
      atom.operand.knownValue? = some literal ∧ (CanonicalLiteral.ofText literal).changed = true := by
  unfold isNonCanonicalPrefix
  constructor
  · intro changed
    split at changed
    · rename_i literal isStartsWith known
      exact ⟨literal, isStartsWith, known, changed⟩
    · cases changed
  · rintro ⟨literal, isStartsWith, known, changed⟩
    rw [isStartsWith, known]
    exact changed

/-- The rule for values that got through because they are encoded speaks of these only. -/
theorem invertedEncodingGate_ineffective {input : BarrierInput}
    (seen : input.value.processing.encodingSeen = true) :
    invertedEncodingGate.verdict? input = some .ineffective := by
  simp [verdict?, judge?, judgeInvertedEncodingGate, seen]

/-- All other rules look past the mark for escapes. -/
theorem judge_of_unmarked {rule : BarrierRule} (different : rule ≠ .invertedEncodingGate)
    {judge : BarrierJudge} (own : rule.judge? = some judge) (guard : GuardCondition)
    (outcome : Bool) (subject : String) (atoms : List GuardAtom) (value : TaintValue)
    (options : BarrierOptions) (seen : Bool) :
    judge ⟨guard, outcome, subject, atoms, value, options⟩ =
      judge ⟨guard, outcome, subject, atoms,
        { value with processing := { value.processing with encodingSeen := seen } }, options⟩ := by
  cases rule <;> cases own <;> first | rfl | exact absurd rfl different

end BarrierRule

namespace BarrierRegistry

/-- A guard is effective when it compares with a known text, or when it checks a decoded path of
which allowed or denied beginnings and the absence of climbing segments are recorded. -/
theorem standard_finds_effective_iff (options : BarrierOptions) (guard : GuardCondition)
    (outcome : Bool) (subject : String) (atoms : List GuardAtom) (value : TaintValue) :
    ((standard options).evaluate guard outcome subject atoms value).verdict = .effective ↔
      (∃ atom ∈ atoms, (atom.operator = .equals ∨ atom.operator = .equalsIgnoreCase) ∧
        atom.negated = false ∧ ∃ known, atom.operand.knownValue? = some known) ∨
      (∃ atom ∈ atoms, atom.operator = .startsWith ∨ atom.operator = .contains) ∧
        value.processing.decode = .canonical ∧
        (∀ atom ∈ atoms, ∀ literal, atom.operator = .startsWith →
          atom.operand.knownValue? = some literal →
          (CanonicalLiteral.ofText literal).changed = true →
          ∃ start, (if atom.negated then Check.denyPrefix start else .allowPrefix start) ∈
            value.checks) ∧
        ((∃ start, .allowPrefix start ∈ value.checks) ∧
            (.noTraversal ∈ value.checks ∨ value.processing.normalized = true) ∨
          (¬∃ start, .allowPrefix start ∈ value.checks) ∧
            (∃ start, .denyPrefix start ∈ value.checks) ∧ .noTraversal ∈ value.checks ∧
            (value.processing.caseFolded = true ∨ options.caseInsensitiveDispatch = false)) := by
  have known (atom : GuardAtom) : atom.IsKnownEquality ↔
      (atom.operator = .equals ∨ atom.operator = .equalsIgnoreCase) ∧ atom.negated = false ∧
        ∃ known, atom.operand.knownValue? = some known := by
    rw [GuardAtom.IsKnownEquality, Option.isSome_iff_exists]
  have backed (atom : GuardAtom) :
      (BarrierRule.isNonCanonicalPrefix atom = true → value.Backs atom) ↔
        ∀ literal, atom.operator = .startsWith → atom.operand.knownValue? = some literal →
          (CanonicalLiteral.ofText literal).changed = true →
          ∃ start, (if atom.negated then Check.denyPrefix start else .allowPrefix start) ∈
            value.checks := by
    rw [BarrierRule.isNonCanonicalPrefix_iff, TaintValue.backs_iff]
    simp only [forall_exists_index, and_imp]
  rw [← BarrierVerdict.isEffective_iff, standard_effective_iff]
  simp only [known, backed, TaintValue.isConfined_iff, GuardAtom.ChecksPath]

/-- A guard that is effective on a value is effective on every lower one that is not clean, with
the guard's atoms applied to both. -/
theorem standard_effective_below (options : BarrierOptions) (guard : GuardCondition)
    (outcome : Bool) (subject : String) (atoms : List GuardAtom) (lower upper : TaintValue)
    (dirty : lower.isClean = false) (below : lower.leq upper = true)
    (effective : ((standard options).evaluate guard outcome subject atoms
      (GuardAtom.applyAll upper atoms)).verdict = .effective) :
    ((standard options).evaluate guard outcome subject atoms
      (GuardAtom.applyAll lower atoms)).verdict = .effective := by
  have stillDirty : (GuardAtom.applyAll lower atoms).isClean = false :=
    (GuardAtom.isClean_applyAll atoms lower).trans dirty
  have stillBelow := GuardAtom.applyAll_mono atoms below
  rw [← BarrierVerdict.isEffective_iff] at *
  exact standard_isAntitone options guard outcome subject atoms _ _ stillDirty stillBelow effective

end BarrierRegistry

namespace DeniedPath

/-- The path does not begin with `/WEB-INF/`. -/
def atoms : List GuardAtom := [⟨"path", .startsWith, .literal "/WEB-INF/", true⟩]

def guard : GuardCondition := ⟨0, "isAllowed(path)", .zero, atoms, [], [], none⟩

/-- A decoded value in small letters without `..`. -/
def folded : TaintValue :=
  ⟨.tainted, ⟨.canonical, false, false, false, true⟩, CheckSet.empty.insert .noTraversal⟩

/-- A value that lies below the pages besides. -/
def page : TaintValue :=
  ⟨.unknown, ⟨.canonical, false, false, true, true⟩,
    (CheckSet.empty.insert .noTraversal).insert (.allowPrefix "/pages/")⟩

/-- The guard stops the value by its deny list and the page by the allow list. -/
theorem page_effective_below :
    page.isClean = false ∧ page.leq folded = true ∧
    ((BarrierRegistry.standard ⟨true⟩).evaluate guard true "path" atoms
      (GuardAtom.applyAll folded atoms)).verdict = .effective ∧
    ((BarrierRegistry.standard ⟨true⟩).evaluate guard true "path" atoms
      (GuardAtom.applyAll page atoms)).verdict = .effective := by
  have below : page.leq folded = true := by decide
  have effective : ((BarrierRegistry.standard ⟨true⟩).evaluate guard true "path" atoms
      (GuardAtom.applyAll folded atoms)).verdict = .effective := by cbv
  exact ⟨rfl, below, effective, BarrierRegistry.standard_effective_below ⟨true⟩ guard true "path"
    atoms page folded rfl below effective⟩

end DeniedPath

namespace BarrierRegistry

/-- Values that a registry's candidates judge alike are evaluated alike. -/
theorem evaluate_congr {registry : BarrierRegistry} {guard : GuardCondition} {outcome : Bool}
    {subject : String} {atoms : List GuardAtom} {first second : TaintValue}
    (context : DecodeContext.ofProcessing first.processing =
      DecodeContext.ofProcessing second.processing)
    (alike : ∀ registered ∈ registry.candidates atoms (.ofProcessing first.processing),
      registered.judge ⟨guard, outcome, subject, atoms, first, registry.options⟩ =
        registered.judge ⟨guard, outcome, subject, atoms, second, registry.options⟩) :
    registry.evaluate guard outcome subject atoms first =
      registry.evaluate guard outcome subject atoms second := by
  simp only [evaluate]
  rw [← context, ← List.head?_filterMap, ← List.head?_filterMap]
  congr 2
  exact List.filterMap_congr fun registered member => by rw [alike registered member]

/-- The rule for values that got through because they are encoded is tried on every guard that checks
texts, unless the value is decoded. -/
theorem standard_applies_encodingGate {options : BarrierOptions} {atoms : List GuardAtom}
    {value : TaintValue} (encoded : value.processing.decode ≠ .canonical)
    (checksText : ∃ atom ∈ atoms, atom.operator ≠ .isNull) :
    (standard options).Applies atoms (.ofProcessing value.processing) .invertedEncodingGate := by
  have inContext : DecodeContext.ofProcessing value.processing ∈
      BarrierRule.invertedEncodingGate.contexts := by
    have notCanonical := mt DecodeContext.ofProcessing_eq_canonical.1 encoded
    cases context : DecodeContext.ofProcessing value.processing with
    | canonical => exact absurd context notCanonical
    | _ => simp [BarrierRule.contexts]
  obtain ⟨atom, member, notNull⟩ := checksText
  have made : CheckOperator.check atom.operator ∈ operatorsOf atoms :=
    check_mem_operatorsOf.2 ⟨atom, member, rfl⟩
  have forTexts : CheckOperator.check atom.operator ∈
      BarrierRule.invertedEncodingGate.operators := by
    cases operator : atom.operator with
    | isNull => exact absurd operator notNull
    | _ => simp [BarrierRule.operators]
  exact standard_applies.2 ⟨⟨_, made, forTexts⟩, inContext⟩

/-- The mark for escapes does not change how a decoded value is evaluated. -/
theorem standard_evaluate_marked (options : BarrierOptions) (guard : GuardCondition)
    (outcome : Bool) (subject : String) (atoms : List GuardAtom) {value : TaintValue}
    (decoded : value.processing.decode = .canonical) (seen : Bool) :
    (standard options).evaluate guard outcome subject atoms value =
      (standard options).evaluate guard outcome subject atoms
        { value with processing := { value.processing with encodingSeen := seen } } := by
  refine evaluate_congr rfl fun registered member => ?_
  have applies := exists_candidates.1 ⟨registered, member, rfl⟩
  have inContext := (standard_applies.1 applies).2
  rw [DecodeContext.ofProcessing_eq_canonical.2 decoded] at inContext
  have different : registered.rule ≠ .invertedEncodingGate := fun isGate => by
    simp [isGate, BarrierRule.contexts] at inContext
  exact BarrierRule.judge_of_unmarked different
    (judge_of_candidate (standard_ownJudges options) member) guard outcome subject atoms value _ _

/-- A value that got through because it is encoded, and that is not decoded to the end, is stopped
by an equality with a known text only; without one the rule for such values decides every guard
that checks texts.  On a decoded value it has no say, and the mark for escapes changes nothing. -/
theorem standard_evaluate_of_encodingSeen (options : BarrierOptions) (guard : GuardCondition)
    (outcome : Bool) (subject : String) (atoms : List GuardAtom) (value : TaintValue)
    (seen : value.processing.encodingSeen = true) :
    (value.processing.decode ≠ .canonical →
      (((standard options).evaluate guard outcome subject atoms value).verdict = .effective →
        ∃ atom ∈ atoms, atom.IsKnownEquality) ∧
      ((¬∃ atom ∈ atoms, atom.IsKnownEquality) → (∃ atom ∈ atoms, atom.operator ≠ .isNull) →
        ((standard options).evaluate guard outcome subject atoms value).verdict = .ineffective ∧
        ((standard options).evaluate guard outcome subject atoms value).rule =
          .invertedEncodingGate)) ∧
    (value.processing.decode = .canonical →
      (standard options).evaluate guard outcome subject atoms value =
        (standard options).evaluate guard outcome subject atoms
          { value with processing := { value.processing with encodingSeen := false } }) := by
  refine ⟨fun encoded => ⟨fun effective => ?_, fun unequal checksText => ?_⟩, fun decoded => ?_⟩
  · rw [← BarrierVerdict.isEffective_iff, standard_effective_iff] at effective
    exact effective.resolve_right fun ⟨_, decoded, _⟩ => encoded decoded
  · refine evaluate_of_first (standard_ownJudges options)
      (standard_applies_encodingGate encoded checksText)
      (BarrierRule.invertedEncodingGate_ineffective seen) ?_
    -- Only the rule for equalities is tried before.
    intro other _ earlier
    cases other with
    | exactLiteralMatch =>
        exact BarrierRule.exactLiteralMatch_none.2 fun atom member equality =>
          unequal ⟨atom, member, equality⟩
    | _ => simp [BarrierRule.priority] at earlier
  · exact standard_evaluate_marked options guard outcome subject atoms decoded false

end BarrierRegistry

namespace ReencodedPath

/-- The path is free of escapes. -/
def gate : List GuardAtom := [⟨"path", .contains, .literal "%", true⟩]

/-- The path is encoded, does not begin with `/WEB-INF/` and has no `..`. -/
def atoms : List GuardAtom :=
  [⟨"path", .contains, .literal "%", false⟩, ⟨"path", .startsWith, .literal "/WEB-INF/", true⟩,
    ⟨"path", .contains, .literal "..", true⟩]

def guard : GuardCondition := ⟨0, "isEncoded(path)", .zero, atoms, [], [], none⟩

/-- A value that was free of escapes, behind a call that is not known. -/
def value : TaintValue := (GuardAtom.applyAll .tainted gate).throughCall

theorem unequal : ¬∃ atom ∈ atoms, atom.IsKnownEquality := by
  rintro ⟨atom, member, equality⟩
  simp only [atoms, List.mem_cons, List.not_mem_nil, or_false] at member
  rcases member with rfl | rfl | rfl <;> simp [GuardAtom.IsKnownEquality] at equality

/-- A call may encode a value that was free of escapes; then the guard finds them again, and is
effective without any equality. -/
theorem encoded_path_gets_by :
    (GuardAtom.applyAll value atoms).processing.encodingSeen = true ∧
    (¬∃ atom ∈ atoms, atom.IsKnownEquality) ∧
    ((BarrierRegistry.standard ⟨false⟩).evaluate guard true "path" atoms
      (GuardAtom.applyAll value atoms)).verdict = .effective :=
  ⟨by decide, unequal, by cbv⟩

/-- The guard does not stop a value that was never decoded, and it judges the one that may have been
encoded again like one without escapes. -/
theorem raw_path_is_caught :
    (GuardAtom.applyAll .tainted atoms).processing.encodingSeen = true ∧
    ((BarrierRegistry.standard ⟨false⟩).evaluate guard true "path" atoms
      (GuardAtom.applyAll .tainted atoms)).verdict = .ineffective ∧
    ((BarrierRegistry.standard ⟨false⟩).evaluate guard true "path" atoms
      (GuardAtom.applyAll .tainted atoms)).rule = .invertedEncodingGate ∧
    (GuardAtom.applyAll value atoms).processing.encodingSeen = true ∧
    (BarrierRegistry.standard ⟨false⟩).evaluate guard true "path" atoms
        (GuardAtom.applyAll value atoms) =
      (BarrierRegistry.standard ⟨false⟩).evaluate guard true "path" atoms
        { GuardAtom.applyAll value atoms with
          processing := { (GuardAtom.applyAll value atoms).processing with
            encodingSeen := false } } := by
  have rawSeen : (GuardAtom.applyAll .tainted atoms).processing.encodingSeen = true := by decide
  have seen : (GuardAtom.applyAll value atoms).processing.encodingSeen = true := by decide
  obtain ⟨raw, -⟩ := BarrierRegistry.standard_evaluate_of_encodingSeen ⟨false⟩ guard true "path"
    atoms _ rawSeen
  obtain ⟨-, decoded⟩ := BarrierRegistry.standard_evaluate_of_encodingSeen ⟨false⟩ guard true
    "path" atoms _ seen
  obtain ⟨ineffective, isGate⟩ := (raw (by decide)).2 unequal (by decide)
  exact ⟨rawSeen, ineffective, isGate, seen, decoded (by decide)⟩

end ReencodedPath

end ForwardTaint
