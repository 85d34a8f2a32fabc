import ForwardTaint.Proofs.RuleDispatch

/-!
When the rules for forwarded paths find a guard effective: an equality with a known text always is,
and a check of the path is when the value is decoded and confined.  Both conditions hold of every
lower value too.
-/

namespace ForwardTaint

namespace GuardAtom

/-- The atom holds when its subject equals a known text. -/
def IsKnownEquality (atom : GuardAtom) : Prop :=
  (atom.operator = .equals ∨ atom.operator = .equalsIgnoreCase) ∧ atom.negated = false ∧
    atom.operand.knownValue?.isSome = true

/-- The atom checks how a path begins or what is in it. -/
def ChecksPath (atom : GuardAtom) : Prop :=
  atom.operator = .startsWith ∨ atom.operator = .contains

end GuardAtom

namespace TaintValue

/-- The value passed a check against a beginning like the one that the atom makes. -/
def Backs (value : TaintValue) (atom : GuardAtom) : Prop :=
  if atom.negated then value.hasDenyPrefix = true else value.hasAllowPrefix = true

/-- The value cannot leave the paths that it was checked for. -/
def IsConfined (value : TaintValue) (options : BarrierOptions) : Prop :=
  (value.hasAllowPrefix = true ∧
      (.noTraversal ∈ value.checks ∨ value.processing.normalized = true)) ∨
    (value.hasAllowPrefix = false ∧ value.hasDenyPrefix = true ∧ .noTraversal ∈ value.checks ∧
      (value.processing.caseFolded = true ∨ options.caseInsensitiveDispatch = false))

end TaintValue

namespace BarrierRule

/-- The checks that the rule is registered for among the rules for forwarded paths. -/
def operators : BarrierRule → List CheckOperator
  | .exactLiteralMatch => [.check .equals, .check .equalsIgnoreCase]
  | .invertedEncodingGate =>
      [.check .startsWith, .check .contains, .check .equals, .check .equalsIgnoreCase]
  | .encodingGate => [.check .contains]
  | .malformedGuard => [.unrecognized]
  | .noApplicableRule => []
  | _ => [.check .startsWith, .check .contains]

/-- The contexts that the rule is registered for among the rules for forwarded paths. -/
def contexts : BarrierRule → List DecodeContext
  | .invertedEncodingGate => [.raw, .once, .normalizedRaw]
  | .normalizeBeforeDecode => [.normalizedRaw]
  | .singleDecode => [.once]
  | .undecodedCheck => [.raw]
  | .caseSensitiveDenyList | .canonicalAllowList | .canonicalDenyList | .encodingGate =>
      [.canonical]
  | _ => DecodeContext.all

/-- The verdict of a rule with its own judge. -/
def verdict? (rule : BarrierRule) (input : BarrierInput) : Option BarrierVerdict :=
  rule.judge?.bind fun judge => (judge input).map Prod.fst

theorem verdict?_of_judge? {rule : BarrierRule} {judge : BarrierJudge}
    (own : rule.judge? = some judge) (input : BarrierInput) :
    rule.verdict? input = (judge input).map Prod.fst := by
  rw [verdict?, own, Option.bind_some]

end BarrierRule

namespace BarrierRegistry

/-- Registering a rule adds one registration for each check in each context. -/
theorem registrations_registerAll (registry : BarrierRegistry) {rule : BarrierRule}
    {judge : BarrierJudge} (own : rule.judge? = some judge) (operators : List CheckOperator)
    (contexts : List DecodeContext) :
    (registry.registerAll rule operators contexts).registrations =
      registry.registrations ++ operators.flatMap fun operator =>
        contexts.map fun context => ⟨operator, context, ⟨rule, judge⟩⟩ := by
  have inContexts (operator : CheckOperator) (contexts : List DecodeContext)
      (registry : BarrierRegistry) :
      (contexts.foldl (fun registry context => registry.register operator context ⟨rule, judge⟩)
        registry).registrations =
      registry.registrations ++ contexts.map fun context =>
        ⟨operator, context, ⟨rule, judge⟩⟩ := by
    induction contexts generalizing registry with
    | nil => simp
    | cons context contexts inductionHypothesis =>
        rw [List.foldl_cons, inductionHypothesis]
        simp [register]
  simp only [registerAll, own]
  induction operators generalizing registry with
  | nil => simp
  | cons operator operators inductionHypothesis =>
      rw [List.foldl_cons, inductionHypothesis, inContexts]
      simp

theorem registers_registerAll {registry : BarrierRegistry} {rule other : BarrierRule}
    {operators : List CheckOperator} {contexts : List DecodeContext} {operator : CheckOperator}
    {context : DecodeContext} :
    (registry.registerAll rule operators contexts).Registers operator context other ↔
      registry.Registers operator context other ∨
        rule.judge?.isSome = true ∧ other = rule ∧ operator ∈ operators ∧ context ∈ contexts := by
  cases own : rule.judge? with
  | none => simp [registerAll, own]
  | some judge =>
      unfold Registers
      rw [registrations_registerAll registry own]
      simp only [List.mem_append, List.mem_flatMap, List.mem_map, Option.isSome_some, true_and]
      constructor
      · rintro ⟨registration, old | ⟨operator, here, context, there, rfl⟩, rfl, rfl, rfl⟩
        · exact .inl ⟨registration, old, rfl, rfl, rfl⟩
        · exact .inr ⟨rfl, here, there⟩
      · rintro (⟨registration, old, same⟩ | ⟨rfl, here, there⟩)
        · exact ⟨registration, .inl old, same⟩
        · exact ⟨_, .inr ⟨operator, here, context, there, rfl⟩, rfl, rfl, rfl⟩

theorem ownJudges_registerAll {registry : BarrierRegistry} (own : registry.HasOwnJudges)
    (rule : BarrierRule) (operators : List CheckOperator) (contexts : List DecodeContext) :
    (registry.registerAll rule operators contexts).HasOwnJudges := by
  cases found : rule.judge? with
  | none => simpa [registerAll, found] using own
  | some judge =>
      intro registration present
      rw [registrations_registerAll registry found] at present
      simp only [List.mem_append, List.mem_flatMap, List.mem_map] at present
      rcases present with old | ⟨operator, -, context, -, rfl⟩
      · exact own registration old
      · exact found

theorem options_registerAll (registry : BarrierRegistry) (rule : BarrierRule)
    (operators : List CheckOperator) (contexts : List DecodeContext) :
    (registry.registerAll rule operators contexts).options = registry.options := by
  have inContexts (operator : CheckOperator) (judge : BarrierJudge)
      (contexts : List DecodeContext) (registry : BarrierRegistry) :
      (contexts.foldl (fun registry context => registry.register operator context ⟨rule, judge⟩)
        registry).options = registry.options := by
    induction contexts generalizing registry with
    | nil => rfl
    | cons context contexts inductionHypothesis => exact inductionHypothesis _
  unfold registerAll
  split
  · rfl
  · induction operators generalizing registry with
    | nil => rfl
    | cons operator operators inductionHypothesis =>
        rw [List.foldl_cons, inductionHypothesis, inContexts]

theorem standard_options (options : BarrierOptions) : (standard options).options = options := by
  simp only [standard, options_registerAll]
  rfl

theorem standard_ownJudges (options : BarrierOptions) : (standard options).HasOwnJudges := by
  have start : (empty options).HasOwnJudges := fun _ present => absurd present List.not_mem_nil
  unfold standard
  repeat apply ownJudges_registerAll
  exact start

/-- The rules for forwarded paths are registered as their tables say. -/
theorem standard_registers {options : BarrierOptions} {operator : CheckOperator}
    {context : DecodeContext} {rule : BarrierRule} :
    (standard options).Registers operator context rule ↔
      operator ∈ rule.operators ∧ context ∈ rule.contexts := by
  have start : ¬(empty options).Registers operator context rule := by
    rintro ⟨registration, present, -⟩
    exact List.not_mem_nil present
  simp only [standard, registers_registerAll, start, false_or]
  cases rule <;> simp [BarrierRule.judge?, BarrierRule.operators, BarrierRule.contexts]

/-- The first conclusive rule in the order of priority gives the verdict. -/
theorem evaluate_of_first {registry : BarrierRegistry} (own : registry.HasOwnJudges)
    {guard : GuardCondition} {outcome : Bool} {subject : String} {atoms : List GuardAtom}
    {value : TaintValue} {rule : BarrierRule} {verdict : BarrierVerdict}
    (applies : registry.Applies atoms (.ofProcessing value.processing) rule)
    (answers : rule.verdict? ⟨guard, outcome, subject, atoms, value, registry.options⟩ =
      some verdict)
    (silent : ∀ other : BarrierRule,
      registry.Applies atoms (.ofProcessing value.processing) other →
      other.priority < rule.priority →
      other.verdict? ⟨guard, outcome, subject, atoms, value, registry.options⟩ = none) :
    (registry.evaluate guard outcome subject atoms value).verdict = verdict ∧
      (registry.evaluate guard outcome subject atoms value).rule = rule := by
  let input : BarrierInput := ⟨guard, outcome, subject, atoms, value, registry.options⟩
  let candidates := registry.candidates atoms (.ofProcessing value.processing)
  let judged (registered : RegisteredRule) : Option BarrierEvaluation :=
    (registered.judge input).map fun answer => ⟨answer.1, registered.rule, answer.2⟩
  obtain ⟨registered, member, rfl⟩ := exists_candidates.2 applies
  rw [BarrierRule.verdict?_of_judge? (judge_of_candidate own member),
    Option.map_eq_some_iff] at answers
  obtain ⟨answer, answers, isVerdict⟩ := answers
  have found : candidates.findSome? judged = some ⟨answer.1, registered.rule, answer.2⟩ := by
    refine (RegisteredRule.findSome?_iff (registry.candidates_ordered _ _)).2
      ⟨registered, member, Option.map_eq_some_iff.2 ⟨answer, answers, rfl⟩, ?_⟩
    intro other present earlier
    have none := silent other.rule (exists_candidates.1 ⟨other, present, rfl⟩) earlier
    rw [BarrierRule.verdict?_of_judge? (judge_of_candidate own present),
      Option.map_eq_none_iff] at none
    exact Option.map_eq_none_iff.2 none
  change ((candidates.findSome? judged).getD _).verdict = verdict ∧
    ((candidates.findSome? judged).getD _).rule = registered.rule
  rw [found]
  exact ⟨isVerdict, rfl⟩

/-- The rule finds the guard effective, and no rule before it has anything to say. -/
structure FindsEffective (registry : BarrierRegistry) (guard : GuardCondition) (outcome : Bool)
    (subject : String) (atoms : List GuardAtom) (value : TaintValue) (rule : BarrierRule) : Prop where
  applies : registry.Applies atoms (.ofProcessing value.processing) rule
  effective : rule.verdict? ⟨guard, outcome, subject, atoms, value, registry.options⟩ =
    some .effective
  silent : ∀ other : BarrierRule, registry.Applies atoms (.ofProcessing value.processing) other →
    other.priority < rule.priority →
    other.verdict? ⟨guard, outcome, subject, atoms, value, registry.options⟩ = none

/-- A guard is effective when the first conclusive rule finds it so. -/
theorem evaluate_effective_iff {registry : BarrierRegistry} (own : registry.HasOwnJudges)
    {guard : GuardCondition} {outcome : Bool} {subject : String} {atoms : List GuardAtom}
    {value : TaintValue} :
    (registry.evaluate guard outcome subject atoms value).verdict.isEffective = true ↔
      ∃ rule, registry.FindsEffective guard outcome subject atoms value rule := by
  let input : BarrierInput := ⟨guard, outcome, subject, atoms, value, registry.options⟩
  let candidates := registry.candidates atoms (.ofProcessing value.processing)
  let judged (registered : RegisteredRule) : Option BarrierEvaluation :=
    (registered.judge input).map fun answer => ⟨answer.1, registered.rule, answer.2⟩
  have verdicts {registered : RegisteredRule} (member : registered ∈ candidates) :
      registered.rule.verdict? input = (judged registered).map BarrierEvaluation.verdict := by
    rw [BarrierRule.verdict?_of_judge? (judge_of_candidate own member), Option.map_map]
    rfl
  constructor
  · intro isEffective
    change ((candidates.findSome? judged).getD _).verdict.isEffective = true at isEffective
    cases found : candidates.findSome? judged with
    | none => simp [found, BarrierVerdict.isEffective] at isEffective
    | some evaluation =>
        rw [found, Option.getD_some, BarrierVerdict.isEffective, beq_iff_eq] at isEffective
        obtain ⟨registered, member, answer, silent⟩ :=
          (RegisteredRule.findSome?_iff (registry.candidates_ordered _ _)).1 found
        refine ⟨registered.rule, exists_candidates.1 ⟨registered, member, rfl⟩, ?_, ?_⟩
        · rw [verdicts member, answer, Option.map_some, isEffective]
        · intro other applies earlier
          obtain ⟨candidate, present, rfl⟩ := exists_candidates.2 applies
          rw [verdicts present, silent candidate present earlier, Option.map_none]
  · rintro ⟨rule, applies, effective, silent⟩
    rw [(evaluate_of_first own applies effective silent).1]
    rfl

/-- The checks of atoms, one for each of them unless there is none. -/
theorem check_mem_operatorsOf {atoms : List GuardAtom} {operator : GuardOperator} :
    CheckOperator.check operator ∈ operatorsOf atoms ↔ ∃ atom ∈ atoms, atom.operator = operator := by
  cases atoms with
  | nil => simp [operatorsOf]
  | cons atom atoms => simp [operatorsOf, eq_comm]

theorem standard_applies {options : BarrierOptions} {atoms : List GuardAtom}
    {context : DecodeContext} {rule : BarrierRule} :
    (standard options).Applies atoms context rule ↔
      (∃ operator ∈ operatorsOf atoms, operator ∈ rule.operators) ∧ context ∈ rule.contexts := by
  simp only [Applies, standard_registers]
  constructor
  · rintro ⟨operator, made, registered, inContext⟩
    exact ⟨⟨operator, made, registered⟩, inContext⟩
  · rintro ⟨⟨operator, made, registered⟩, inContext⟩
    exact ⟨operator, made, registered, inContext⟩

/-- Rules for paths apply where an atom checks the path. -/
theorem exists_pathOperator {atoms : List GuardAtom} {rule : BarrierRule}
    (forPaths : rule.operators = [.check .startsWith, .check .contains]) :
    (∃ operator ∈ operatorsOf atoms, operator ∈ rule.operators) ↔
      ∃ atom ∈ atoms, atom.ChecksPath := by
  simp only [forPaths, List.mem_cons, List.not_mem_nil, or_false]
  constructor
  · rintro ⟨operator, made, rfl | rfl⟩
    · obtain ⟨atom, member, same⟩ := check_mem_operatorsOf.1 made
      exact ⟨atom, member, .inl same⟩
    · obtain ⟨atom, member, same⟩ := check_mem_operatorsOf.1 made
      exact ⟨atom, member, .inr same⟩
  · rintro ⟨atom, member, same | same⟩
    · exact ⟨_, check_mem_operatorsOf.2 ⟨atom, member, same⟩, .inl rfl⟩
    · exact ⟨_, check_mem_operatorsOf.2 ⟨atom, member, same⟩, .inr rfl⟩

end BarrierRegistry

namespace DecodeContext

/-- A value is in the canonical context when it is decoded to the end. -/
theorem ofProcessing_eq_canonical {processing : Processing} :
    ofProcessing processing = .canonical ↔ processing.decode = .canonical := by
  unfold ofProcessing
  cases processing.decode <;> simp <;> split <;> simp

end DecodeContext

namespace BarrierRule

/-- Only three rules find a guard effective. -/
theorem rule_of_effective {rule : BarrierRule} {input : BarrierInput}
    (effective : rule.verdict? input = some .effective) :
    rule = .exactLiteralMatch ∨ rule = .canonicalAllowList ∨ rule = .canonicalDenyList := by
  cases rule <;> simp only [verdict?, judge?, Option.bind_some, Option.bind_none, reduceCtorEq,
    or_false, or_true] at effective ⊢
  · unfold judgeInvertedEncodingGate at effective
    split at effective <;> simp at effective
  · unfold judgeNormalizeBeforeDecode at effective
    split at effective <;> simp at effective
  · unfold judgeSingleDecode at effective
    split at effective <;> simp at effective
  · unfold judgeUndecodedCheck at effective
    split at effective <;> simp at effective
  · simp [judgeNonCanonicalLiteral, Option.map_map] at effective
  · unfold judgeCaseSensitiveDenyList at effective
    split at effective <;> simp at effective
  · unfold judgeEncodingGate at effective
    split at effective <;> simp at effective
  · unfold judgeMalformedGuard at effective
    split at effective <;> simp at effective

/-- The rule for equalities speaks when there is a known one. -/
theorem exactLiteralMatch_none {input : BarrierInput} :
    exactLiteralMatch.verdict? input = none ↔ ∀ atom ∈ input.atoms, ¬atom.IsKnownEquality := by
  simp only [verdict?, judge?, Option.bind_some, judgeExactLiteralMatch, Option.map_map,
    Option.map_eq_none_iff, List.find?_eq_none, GuardAtom.IsKnownEquality, Bool.and_eq_true,
    Bool.or_eq_true, beq_iff_eq, Bool.not_eq_true', and_assoc]

/-- The rule for equalities is effective whenever it speaks. -/
theorem exactLiteralMatch_effective {input : BarrierInput} :
    exactLiteralMatch.verdict? input = some .effective ↔
      ∃ atom ∈ input.atoms, atom.IsKnownEquality := by
  have speaks : exactLiteralMatch.verdict? input = some .effective ↔
      exactLiteralMatch.verdict? input ≠ none := by
    simp only [verdict?, judge?, Option.bind_some, judgeExactLiteralMatch, Option.map_map]
    cases input.atoms.find? _ <;> simp
  rw [speaks, Ne, exactLiteralMatch_none]
  simp only [not_forall, not_not, exists_prop]

theorem nonCanonicalLiteral_none {input : BarrierInput} :
    nonCanonicalLiteral.verdict? input = none ↔
      ∀ atom ∈ input.atoms, isNonCanonicalPrefix atom = true → input.value.Backs atom := by
  simp only [verdict?, judge?, Option.bind_some, judgeNonCanonicalLiteral, Option.map_map,
    Option.map_eq_none_iff, List.find?_eq_none, TaintValue.Backs, Bool.and_eq_true,
    Bool.not_eq_true']
  refine forall_congr' fun atom => forall_congr' fun _ => ?_
  cases atom.negated <;> simp

theorem caseSensitiveDenyList_none {input : BarrierInput} :
    caseSensitiveDenyList.verdict? input = none ↔
      (input.options.caseInsensitiveDispatch = true → input.value.hasDenyPrefix = true →
        input.value.hasAllowPrefix = false → input.value.processing.caseFolded = true) := by
  simp only [verdict?, judge?, Option.bind_some, judgeCaseSensitiveDenyList]
  cases input.options.caseInsensitiveDispatch <;> cases input.value.hasDenyPrefix <;>
    cases input.value.hasAllowPrefix <;> cases input.value.processing.caseFolded <;> simp

/-- The rule for allow lists speaks of decoded values that begin as allowed. -/
theorem canonicalAllowList_verdict {input : BarrierInput}
    (decoded : input.value.processing.decode = .canonical) :
    canonicalAllowList.verdict? input =
      if input.value.hasAllowPrefix = false then none
      else if .noTraversal ∈ input.value.checks ∨ input.value.processing.normalized = true then
        some .effective
      else some .partialBarrier := by
  simp only [verdict?, judge?, Option.bind_some, judgeCanonicalAllowList, decoded, ne_eq,
    not_true_eq_false, false_or, Bool.not_eq_true']
  split
  · rfl
  · split <;> rfl

theorem canonicalAllowList_none {input : BarrierInput}
    (decoded : input.value.processing.decode = .canonical) :
    canonicalAllowList.verdict? input = none ↔ input.value.hasAllowPrefix = false := by
  rw [canonicalAllowList_verdict decoded]
  split
  · simp [*]
  · split <;> simp [*]

theorem canonicalAllowList_effective {input : BarrierInput}
    (decoded : input.value.processing.decode = .canonical) :
    canonicalAllowList.verdict? input = some .effective ↔
      input.value.hasAllowPrefix = true ∧
        (.noTraversal ∈ input.value.checks ∨ input.value.processing.normalized = true) := by
  rw [canonicalAllowList_verdict decoded]
  split
  · simp [*]
  · split <;> simp [*]

theorem canonicalDenyList_effective {input : BarrierInput}
    (decoded : input.value.processing.decode = .canonical) :
    canonicalDenyList.verdict? input = some .effective ↔
      input.value.hasDenyPrefix = true ∧ .noTraversal ∈ input.value.checks := by
  simp only [verdict?, judge?, Option.bind_some, judgeCanonicalDenyList, decoded]
  by_cases confined : Check.noTraversal ∈ input.value.checks <;>
    cases input.value.hasDenyPrefix <;> simp [confined]

end BarrierRule

namespace BarrierRegistry

variable {options : BarrierOptions} {guard : GuardCondition} {outcome : Bool} {subject : String}
  {atoms : List GuardAtom} {value : TaintValue}

/-- On a decoded value whose beginnings are backed, the rules before those for deny and allow lists
have nothing to say. -/
theorem early_rules_silent (decoded : value.processing.decode = .canonical)
    (unequal : ∀ atom ∈ atoms, ¬atom.IsKnownEquality)
    (backed : ∀ atom ∈ atoms, BarrierRule.isNonCanonicalPrefix atom = true → value.Backs atom)
    {rule : BarrierRule}
    (applies : (standard options).Applies atoms (.ofProcessing value.processing) rule)
    (early : rule.priority < 7) :
    rule.verdict? ⟨guard, outcome, subject, atoms, value, (standard options).options⟩ = none := by
  have inContext := (standard_applies.1 applies).2
  rw [DecodeContext.ofProcessing_eq_canonical.2 decoded] at inContext
  cases rule with
  | exactLiteralMatch => exact BarrierRule.exactLiteralMatch_none.2 unequal
  | nonCanonicalLiteral => exact BarrierRule.nonCanonicalLiteral_none.2 backed
  | invertedEncodingGate | normalizeBeforeDecode | singleDecode | undecodedCheck =>
      simp [BarrierRule.contexts] at inContext
  | _ => simp [BarrierRule.priority] at early

/-- The rule for paths that decides a decoded value applies as soon as an atom checks the path. -/
theorem standard_applies_path (decoded : value.processing.decode = .canonical)
    (checksPath : ∃ atom ∈ atoms, atom.ChecksPath) {rule : BarrierRule}
    (forPaths : rule.operators = [.check .startsWith, .check .contains])
    (decides : .canonical ∈ rule.contexts) :
    (standard options).Applies atoms (.ofProcessing value.processing) rule := by
  rw [DecodeContext.ofProcessing_eq_canonical.2 decoded]
  exact standard_applies.2 ⟨(exists_pathOperator forPaths).2 checksPath, decides⟩

/-- A rule for lists finds a guard effective only on a decoded path that is confined and whose
beginnings are all backed. -/
theorem confined_of_findsEffective {rule : BarrierRule}
    (found : (standard options).FindsEffective guard outcome subject atoms value rule)
    (listRule : rule = .canonicalAllowList ∨ rule = .canonicalDenyList) :
    (∃ atom ∈ atoms, atom.ChecksPath) ∧ value.processing.decode = .canonical ∧
      (∀ atom ∈ atoms, BarrierRule.isNonCanonicalPrefix atom = true → value.Backs atom) ∧
      value.IsConfined options := by
  have forPaths : rule.operators = [.check .startsWith, .check .contains] := by
    rcases listRule with rfl | rfl <;> rfl
  have onlyCanonical : rule.contexts = [.canonical] := by
    rcases listRule with rfl | rfl <;> rfl
  have late : 7 < rule.priority := by
    rcases listRule with rfl | rfl <;> decide
  obtain ⟨made, inContext⟩ := standard_applies.1 found.applies
  have checksPath := (exists_pathOperator forPaths).1 made
  rw [onlyCanonical, List.mem_singleton, DecodeContext.ofProcessing_eq_canonical] at inContext
  have backed := found.silent .nonCanonicalLiteral
    (standard_applies_path inContext checksPath rfl (by decide)) (Nat.lt_trans (by decide) late)
  have foldedIfDenied := found.silent .caseSensitiveDenyList
    (standard_applies_path inContext checksPath rfl (by decide)) late
  refine ⟨checksPath, inContext, BarrierRule.nonCanonicalLiteral_none.1 backed, ?_⟩
  rcases listRule with rfl | rfl
  · exact .inl ((BarrierRule.canonicalAllowList_effective inContext).1 found.effective)
  · have notAllowed := (BarrierRule.canonicalAllowList_none inContext).1
      (found.silent .canonicalAllowList
        (standard_applies_path inContext checksPath rfl (by decide)) (by decide))
    obtain ⟨denied, untraversed⟩ :=
      (BarrierRule.canonicalDenyList_effective inContext).1 found.effective
    rw [BarrierRule.caseSensitiveDenyList_none, standard_options] at foldedIfDenied
    refine .inr ⟨notAllowed, denied, untraversed, ?_⟩
    cases insensitive : options.caseInsensitiveDispatch with
    | true => exact .inl (foldedIfDenied insensitive denied notAllowed)
    | false => exact .inr rfl

/-- The rule for equalities with a known text comes first. -/
theorem findsEffective_of_equality (known : ∃ atom ∈ atoms, atom.IsKnownEquality) :
    (standard options).FindsEffective guard outcome subject atoms value .exactLiteralMatch := by
  obtain ⟨atom, member, equality⟩ := known
  refine ⟨standard_applies.2 ⟨?_, ?_⟩,
    BarrierRule.exactLiteralMatch_effective.2 ⟨atom, member, equality⟩, ?_⟩
  · refine ⟨.check atom.operator, check_mem_operatorsOf.2 ⟨atom, member, rfl⟩, ?_⟩
    rcases equality.1 with same | same <;> simp [same, BarrierRule.operators]
  · change DecodeContext.ofProcessing value.processing ∈ DecodeContext.all
    cases DecodeContext.ofProcessing value.processing <;> decide
  · intro other _ earlier
    cases other <;> simp [BarrierRule.priority] at earlier

/-- Without an equality, one of the rules for lists finds the guard of a confined path effective. -/
theorem exists_findsEffective_of_confined (unequal : ∀ atom ∈ atoms, ¬atom.IsKnownEquality)
    (checksPath : ∃ atom ∈ atoms, atom.ChecksPath) (decoded : value.processing.decode = .canonical)
    (backed : ∀ atom ∈ atoms, BarrierRule.isNonCanonicalPrefix atom = true → value.Backs atom)
    (confined : value.IsConfined options) :
    ∃ rule, (standard options).FindsEffective guard outcome subject atoms value rule := by
  have early {rule : BarrierRule}
      (applies : (standard options).Applies atoms (.ofProcessing value.processing) rule)
      (isEarly : rule.priority < 7) :
      rule.verdict? ⟨guard, outcome, subject, atoms, value, (standard options).options⟩ = none :=
    early_rules_silent decoded unequal backed applies isEarly
  rcases confined with ⟨allowed, inside⟩ | ⟨notAllowed, denied, untraversed, folded⟩
  · refine ⟨.canonicalAllowList, standard_applies_path decoded checksPath rfl (by decide),
      (BarrierRule.canonicalAllowList_effective decoded).2 ⟨allowed, inside⟩, ?_⟩
    intro other applies earlier
    by_cases isDenyRule : other = .caseSensitiveDenyList
    · subst isDenyRule
      exact BarrierRule.caseSensitiveDenyList_none.2 fun _ _ notAllowed => by
        simp [allowed] at notAllowed
    · apply early applies
      cases other <;> simp_all [BarrierRule.priority]
  · refine ⟨.canonicalDenyList, standard_applies_path decoded checksPath rfl (by decide),
      (BarrierRule.canonicalDenyList_effective decoded).2 ⟨denied, untraversed⟩, ?_⟩
    intro other applies earlier
    by_cases isDenyRule : other = .caseSensitiveDenyList
    · subst isDenyRule
      rw [standard_options]
      refine BarrierRule.caseSensitiveDenyList_none.2 fun insensitive _ _ => ?_
      exact folded.resolve_right fun sensitive => Bool.noConfusion (insensitive.symm.trans sensitive)
    · by_cases isAllowRule : other = .canonicalAllowList
      · subst isAllowRule
        exact (BarrierRule.canonicalAllowList_none decoded).2 notAllowed
      · apply early applies
        cases other <;> simp_all [BarrierRule.priority]

/-- A guard is effective when it compares with a known text, or when it checks a decoded path that
is confined and whose beginnings are all backed. -/
theorem standard_effective_iff :
    ((standard options).evaluate guard outcome subject atoms value).verdict.isEffective = true ↔
      (∃ atom ∈ atoms, atom.IsKnownEquality) ∨
        (∃ atom ∈ atoms, atom.ChecksPath) ∧ value.processing.decode = .canonical ∧
          (∀ atom ∈ atoms, BarrierRule.isNonCanonicalPrefix atom = true → value.Backs atom) ∧
          value.IsConfined options := by
  rw [evaluate_effective_iff (standard_ownJudges options)]
  constructor
  · rintro ⟨rule, found⟩
    rcases BarrierRule.rule_of_effective found.effective with rfl | listRule
    · exact .inl (BarrierRule.exactLiteralMatch_effective.1 found.effective)
    · exact .inr (confined_of_findsEffective found listRule)
  · intro conditions
    by_cases known : ∃ atom ∈ atoms, atom.IsKnownEquality
    · exact ⟨_, findsEffective_of_equality known⟩
    · obtain ⟨checksPath, decoded, backed, confined⟩ := conditions.resolve_left known
      exact exists_findsEffective_of_confined (fun atom member equality =>
        known ⟨atom, member, equality⟩) checksPath decoded backed confined

/-- A registry judges lower values no less effective. -/
def IsAntitone (registry : BarrierRegistry) : Prop :=
  ∀ (guard : GuardCondition) (outcome : Bool) (subject : String) (atoms : List GuardAtom)
    (lower upper : TaintValue), lower.isClean = false → lower.leq upper = true →
    (registry.evaluate guard outcome subject atoms upper).verdict.isEffective = true →
    (registry.evaluate guard outcome subject atoms lower).verdict.isEffective = true

end BarrierRegistry

namespace TaintValue

variable {lower upper : TaintValue}

/-- A value with more checks begins as allowed where another one does. -/
theorem hasAllowPrefix_of_checks (within : ∀ check ∈ upper.checks, check ∈ lower.checks)
    (allowed : upper.hasAllowPrefix = true) : lower.hasAllowPrefix = true := by
  obtain ⟨check, member, isPrefix⟩ := List.any_eq_true.1 allowed
  exact List.any_eq_true.2 ⟨check, within check member, isPrefix⟩

theorem hasDenyPrefix_of_checks (within : ∀ check ∈ upper.checks, check ∈ lower.checks)
    (denied : upper.hasDenyPrefix = true) : lower.hasDenyPrefix = true := by
  obtain ⟨check, member, isPrefix⟩ := List.any_eq_true.1 denied
  exact List.any_eq_true.2 ⟨check, within check member, isPrefix⟩

theorem backs_of_checks (within : ∀ check ∈ upper.checks, check ∈ lower.checks)
    {atom : GuardAtom} (backs : upper.Backs atom) : lower.Backs atom := by
  unfold Backs at *
  split
  · rename_i negated
    rw [if_pos negated] at backs
    exact hasDenyPrefix_of_checks within backs
  · rename_i plain
    rw [if_neg plain] at backs
    exact hasAllowPrefix_of_checks within backs

/-- A lower value is confined where a higher one is. -/
theorem isConfined_of_leq {options : BarrierOptions} (dirty : lower.isClean = false)
    (below : lower.leq upper = true) (confined : upper.IsConfined options) :
    lower.IsConfined options := by
  obtain ⟨-, -, processing, within⟩ := (leq_iff dirty).1 below
  obtain ⟨-, -, -, normalized, folded⟩ := Processing.atLeast_iff.1 processing
  rcases confined with ⟨allowed, inside⟩ | ⟨-, denied, untraversed, insensitive⟩
  · exact .inl ⟨hasAllowPrefix_of_checks within allowed,
      inside.imp (within .noTraversal) normalized⟩
  · cases allowed : lower.hasAllowPrefix with
    | true => exact .inl ⟨allowed, .inl (within .noTraversal untraversed)⟩
    | false =>
        exact .inr ⟨allowed, hasDenyPrefix_of_checks within denied,
          within .noTraversal untraversed, insensitive.imp_left folded⟩

end TaintValue

namespace BarrierRegistry

/-- The rules for forwarded paths judge lower values no less effective. -/
theorem standard_isAntitone (options : BarrierOptions) : (standard options).IsAntitone := by
  intro guard outcome subject atoms lower upper dirty below effective
  rw [standard_effective_iff] at *
  obtain ⟨-, -, processing, within⟩ := (TaintValue.leq_iff dirty).1 below
  refine effective.imp_right fun ⟨checksPath, decoded, backed, confined⟩ => ?_
  refine ⟨checksPath, ?_, fun atom member literal => ?_, ?_⟩
  · have distance := (Processing.atLeast_iff.1 processing).1
    rw [DecodeLevel.distance_eq_zero.2 decoded] at distance
    exact DecodeLevel.distance_eq_zero.1 (Nat.le_zero.1 distance)
  · exact TaintValue.backs_of_checks within (backed atom member literal)
  · exact TaintValue.isConfined_of_leq dirty below confined

end BarrierRegistry

end ForwardTaint
