import Mathlib
import ForwardTaint.Proofs.EffectiveGuards

/-!
What the verdict on a guard owes to the registrations.  The candidates are the rules registered for the
checks of the atoms, in strictly increasing priority, and the first one that reaches a verdict decides.
Where each rule has one judge, neither the order of the registrations nor that of the atoms matters.
-/

namespace ForwardTaint

/-- The judge reaches the same verdict on the same atoms in another order; the reason may differ. -/
def BarrierJudge.IgnoresOrder (judge : BarrierJudge) : Prop :=
  ∀ (input : BarrierInput) (atoms : List GuardAtom), atoms.Perm input.atoms →
    (judge { input with atoms := atoms }).map Prod.fst = (judge input).map Prod.fst

/-- The registration is for the context and for the check of some atom, or for guards that were not
understood if there is none. -/
def Registration.CountsFor (registration : Registration) (atoms : List GuardAtom)
    (context : DecodeContext) : Prop :=
  registration.context = context ∧
    (atoms = [] ∧ registration.operator = .unrecognized ∨
      ∃ atom ∈ atoms, registration.operator = .check atom.operator)

/-- Every rule is registered with one judge only. -/
def Registration.HaveSingleJudges (registrations : List Registration) : Prop :=
  ∀ first ∈ registrations, ∀ second ∈ registrations,
    first.registered.rule = second.registered.rule →
    first.registered.judge = second.registered.judge

namespace RegisteredRule

/-- Rules in strictly increasing priority are known by which ones they are. -/
theorem eq_of_mem_iff {rules others : List RegisteredRule}
    (ordered : rules.Pairwise fun first second => first.rule.priority < second.rule.priority)
    (otherOrdered : others.Pairwise fun first second =>
      first.rule.priority < second.rule.priority)
    (same : ∀ registered, registered ∈ rules ↔ registered ∈ others) : rules = others := by
  have distinct {rules : List RegisteredRule}
      (ordered : rules.Pairwise fun first second => first.rule.priority < second.rule.priority) :
      rules.Nodup := by
    refine ordered.imp fun before equal => ?_
    rw [equal] at before
    exact Nat.lt_irrefl _ before
  apply List.Perm.eq_of_pairwise _ ordered otherOrdered
  · exact (List.perm_ext_iff_of_nodup (distinct ordered) (distinct otherOrdered)).2 same
  · intro first second _ _ before behind
    exact absurd (Nat.lt_trans before behind) (Nat.lt_irrefl _)

theorem byPriority_strict {rules : List RegisteredRule}
    (distinct : rules.Pairwise fun first second => first.rule ≠ second.rule) :
    (byPriority rules).Pairwise fun first second =>
      first.rule.priority < second.rule.priority := by
  have stillDistinct : (byPriority rules).Pairwise fun first second => first.rule ≠ second.rule :=
    (List.Perm.pairwise_iff Ne.symm (List.mergeSort_perm _ _).symm).1 distinct
  refine (stillDistinct.and (byPriority_ordered rules)).imp ?_
  intro first second ⟨different, notAfter⟩
  have : first.rule.priority ≠ second.rule.priority := different ∘ BarrierRule.eq_of_priority
  omega

/-- Whether a rule is there does not depend on the order, so a rule may be added to sorted rules. -/
theorem byPriority_addNew {rules : List RegisteredRule} (registered : RegisteredRule)
    (distinct : rules.Pairwise fun first second => first.rule ≠ second.rule) :
    byPriority (addNew rules registered) = byPriority (addNew (byPriority rules) registered) := by
  have stillDistinct : (byPriority rules).Pairwise fun first second => first.rule ≠ second.rule :=
    (List.Perm.pairwise_iff Ne.symm (List.mergeSort_perm _ _).symm).1 distinct
  apply eq_of_mem_iff (byPriority_strict (addNew_distinct registered distinct))
    (byPriority_strict (addNew_distinct registered stillDistinct))
  intro other
  have sameAny : (byPriority rules).any (fun known => known.rule == registered.rule) =
      rules.any fun known => known.rule == registered.rule := by
    rw [Bool.eq_iff_iff, List.any_eq_true, List.any_eq_true]
    simp only [mem_byPriority]
  rw [mem_byPriority, mem_byPriority, addNew, addNew, sameAny]
  split
  · exact mem_byPriority.symm
  · rw [List.mem_append, List.mem_append, mem_byPriority]

end RegisteredRule

namespace BarrierRegistry

/-- The registry after registrations in their order. -/
def ofRegistrations (options : BarrierOptions) (registrations : List Registration) :
    BarrierRegistry :=
  registrations.foldl (fun registry registration =>
    registry.register registration.operator registration.context registration.registered)
    (empty options)

/-- The rules that are tried for atoms in a context. -/
def candidateRules (registry : BarrierRegistry) (atoms : List GuardAtom)
    (context : DecodeContext) : List BarrierRule :=
  (registry.candidates atoms context).map RegisteredRule.rule

theorem ofRegistrations_eq (options : BarrierOptions) (registrations : List Registration) :
    ofRegistrations options registrations = ⟨registrations, options⟩ := by
  have registered (registry : BarrierRegistry) :
      registrations.foldl (fun registry registration =>
        registry.register registration.operator registration.context registration.registered)
        registry = ⟨registry.registrations ++ registrations, registry.options⟩ := by
    induction registrations generalizing registry with
    | nil => simp
    | cons registration registrations inductionHypothesis =>
        rw [List.foldl_cons, inductionHypothesis]
        simp [register]
  exact registered (empty options)

/-- A registration puts its rule among those for its check and context, unless it is there, and
changes no others. -/
theorem rules_register (registry : BarrierRegistry) (operator other : CheckOperator)
    (context otherContext : DecodeContext) (registered : RegisteredRule) :
    (registry.register operator context registered).rules other otherContext =
      if operator = other ∧ context = otherContext then
        RegisteredRule.byPriority (RegisteredRule.addNew (registry.rules other otherContext) registered)
      else registry.rules other otherContext := by
  unfold rules register
  simp only [List.filter_append, List.map_append, List.foldl_append]
  split
  · rename_i here
    obtain ⟨rfl, rfl⟩ := here
    simp only [beq_self_eq_true, Bool.and_self, List.filter_singleton]
    exact RegisteredRule.byPriority_addNew registered (RegisteredRule.addAll_distinct _ .nil)
  · rename_i elsewhere
    have skipped : (operator == other && context == otherContext) = false := by
      simpa using elsewhere
    simp [skipped]

theorem mem_operatorsOf {atoms : List GuardAtom} {operator : CheckOperator} :
    operator ∈ operatorsOf atoms ↔ atoms = [] ∧ operator = .unrecognized ∨
      ∃ atom ∈ atoms, operator = .check atom.operator := by
  cases atoms with
  | nil => simp [operatorsOf]
  | cons atom atoms => simp [operatorsOf, eq_comm]

variable {registry other : BarrierRegistry} {atoms otherAtoms : List GuardAtom}
  {context : DecodeContext}

theorem countsFor_of_mem_candidates {registered : RegisteredRule}
    (member : registered ∈ registry.candidates atoms context) :
    ∃ registration ∈ registry.registrations, registration.CountsFor atoms context ∧
      registration.registered = registered := by
  have added := RegisteredRule.mem_of_mem_addAll (RegisteredRule.mem_byPriority.1 member)
  obtain ⟨operator, made, member⟩ := List.mem_flatMap.1 (added.resolve_left List.not_mem_nil)
  obtain ⟨registration, present, rfl, inContext, same⟩ := mem_rules member
  exact ⟨registration, present, ⟨inContext, mem_operatorsOf.1 made⟩, same⟩

theorem mem_candidateRules {rule : BarrierRule} :
    rule ∈ registry.candidateRules atoms context ↔
      ∃ registration ∈ registry.registrations, registration.CountsFor atoms context ∧
        registration.registered.rule = rule := by
  rw [candidateRules, List.mem_map, exists_candidates]
  constructor
  · rintro ⟨operator, made, registration, present, rfl, inContext, same⟩
    exact ⟨registration, present, ⟨inContext, mem_operatorsOf.1 made⟩, same⟩
  · rintro ⟨registration, present, ⟨inContext, counts⟩, same⟩
    exact ⟨_, mem_operatorsOf.2 counts, registration, present, rfl, inContext, same⟩

theorem candidateRules_ordered (registry : BarrierRegistry) (atoms : List GuardAtom)
    (context : DecodeContext) :
    (registry.candidateRules atoms context).Pairwise fun first second =>
      first.priority < second.priority :=
  List.pairwise_map.2 (registry.candidates_ordered atoms context)

/-- Where each rule has one judge, the candidates are all that count. -/
theorem mem_candidates_iff (single : Registration.HaveSingleJudges registry.registrations)
    {registered : RegisteredRule} :
    registered ∈ registry.candidates atoms context ↔
      ∃ registration ∈ registry.registrations, registration.CountsFor atoms context ∧
        registration.registered = registered := by
  refine ⟨countsFor_of_mem_candidates, ?_⟩
  rintro ⟨registration, present, counts, rfl⟩
  obtain ⟨known, member, sameRule⟩ := List.mem_map.1 (mem_candidateRules.2
    ⟨registration, present, counts, rfl⟩)
  obtain ⟨first, isFirst, -, rfl⟩ := countsFor_of_mem_candidates member
  have sameJudge := single first isFirst registration present sameRule
  have same : first.registered = registration.registered := by
    cases isThere : first.registered
    cases isHere : registration.registered
    simp_all
  exact same ▸ member

/-- With the same registrations the same atoms have the same candidates, whatever the order of either. -/
theorem candidates_eq_of_perm (single : Registration.HaveSingleJudges registry.registrations)
    (permuted : other.registrations.Perm registry.registrations) (reordered : otherAtoms.Perm atoms) :
    other.candidates otherAtoms context = registry.candidates atoms context := by
  have otherSingle : Registration.HaveSingleJudges other.registrations := by
    intro first isFirst second isSecond
    exact single first (permuted.mem_iff.1 isFirst) second (permuted.mem_iff.1 isSecond)
  have sameCounts (registration : Registration) :
      registration.CountsFor otherAtoms context ↔ registration.CountsFor atoms context := by
    have bothEmpty : otherAtoms = [] ↔ atoms = [] :=
      ⟨fun isEmpty => (isEmpty ▸ reordered).nil_eq.symm, fun isEmpty => (isEmpty ▸ reordered).eq_nil⟩
    simp only [Registration.CountsFor, bothEmpty, reordered.mem_iff]
  apply RegisteredRule.eq_of_mem_iff (other.candidates_ordered _ _)
    (registry.candidates_ordered _ _)
  intro registered
  simp only [mem_candidates_iff single, mem_candidates_iff otherSingle, permuted.mem_iff, sameCounts]

section Evaluation

variable {guard : GuardCondition} {outcome : Bool} {subject : String} {value : TaintValue}

/-- The evaluation is that of the first of some rules that reaches a verdict, or that for no rule if none
of them does. -/
def IsFirstVerdict (rules : List RegisteredRule) (input : BarrierInput)
    (evaluation : BarrierEvaluation) : Prop :=
  (∃ before registered after, rules = before ++ registered :: after ∧
      (∀ earlier ∈ before, earlier.judge input = none) ∧
      registered.judge input = some (evaluation.verdict, evaluation.rationale) ∧
      evaluation.rule = registered.rule) ∨
    (∀ registered ∈ rules, registered.judge input = none) ∧
      evaluation.verdict = .ineffective ∧ evaluation.rule = .noApplicableRule

theorem evaluate_isFirstVerdict (registry : BarrierRegistry) (guard : GuardCondition)
    (outcome : Bool) (subject : String) (atoms : List GuardAtom) (value : TaintValue) :
    IsFirstVerdict (registry.candidates atoms (.ofProcessing value.processing))
      ⟨guard, outcome, subject, atoms, value, registry.options⟩
      (registry.evaluate guard outcome subject atoms value) := by
  let input : BarrierInput := ⟨guard, outcome, subject, atoms, value, registry.options⟩
  let candidates := registry.candidates atoms (.ofProcessing value.processing)
  let judged (registered : RegisteredRule) : Option BarrierEvaluation :=
    (registered.judge input).map fun answer => ⟨answer.1, registered.rule, answer.2⟩
  change IsFirstVerdict candidates input ((candidates.findSome? judged).getD _)
  cases found : candidates.findSome? judged with
  | none =>
      refine .inr ⟨fun registered member => ?_, rfl, rfl⟩
      exact Option.map_eq_none_iff.1 (List.findSome?_eq_none_iff.1 found registered member)
  | some evaluation =>
      obtain ⟨before, registered, after, split, answers, silent⟩ :=
        List.findSome?_eq_some_iff.1 found
      obtain ⟨answer, isAnswer, rfl⟩ := Option.map_eq_some_iff.1 answers
      exact .inl ⟨before, registered, after, split,
        fun earlier member => Option.map_eq_none_iff.1 (silent earlier member), isAnswer, rfl⟩

/-- With the same registrations in another order the evaluation is the same, its reason included. -/
theorem evaluate_eq_of_perm (single : Registration.HaveSingleJudges registry.registrations)
    (permuted : other.registrations.Perm registry.registrations)
    (sameOptions : other.options = registry.options) :
    other.evaluate guard outcome subject atoms value =
      registry.evaluate guard outcome subject atoms value := by
  unfold evaluate
  simp only [candidates_eq_of_perm single permuted (.refl atoms), sameOptions]

/-- The verdict and the rule are those of the first verdict among the candidates. -/
theorem verdict_evaluate (registry : BarrierRegistry) (guard : GuardCondition) (outcome : Bool)
    (subject : String) (atoms : List GuardAtom) (value : TaintValue) :
    ((registry.evaluate guard outcome subject atoms value).verdict,
        (registry.evaluate guard outcome subject atoms value).rule) =
      ((registry.candidates atoms (.ofProcessing value.processing)).filterMap fun registered =>
        ((registered.judge ⟨guard, outcome, subject, atoms, value, registry.options⟩).map
          Prod.fst).map (·, registered.rule)).head?.getD (.ineffective, .noApplicableRule) := by
  let verdictAndRule (evaluation : BarrierEvaluation) : BarrierVerdict × BarrierRule :=
    (evaluation.verdict, evaluation.rule)
  change verdictAndRule (registry.evaluate guard outcome subject atoms value) = _
  unfold evaluate
  simp only
  rw [← Option.getD_map verdictAndRule, List.map_findSome?, List.head?_filterMap]
  simp only [Function.comp_def, Option.map_map]
  rfl

/-- Judges that ignore the order of atoms reach one verdict on atoms in any order. -/
theorem verdict_evaluate_of_perm (single : Registration.HaveSingleJudges registry.registrations)
    (ignore : ∀ registration ∈ registry.registrations, registration.registered.judge.IgnoresOrder)
    (reordered : otherAtoms.Perm atoms) :
    (registry.evaluate guard outcome subject otherAtoms value).verdict =
        (registry.evaluate guard outcome subject atoms value).verdict ∧
      (registry.evaluate guard outcome subject otherAtoms value).rule =
        (registry.evaluate guard outcome subject atoms value).rule := by
  rw [← Prod.mk.injEq, verdict_evaluate, verdict_evaluate,
    candidates_eq_of_perm single (.refl _) reordered]
  congr 2
  apply List.filterMap_congr
  intro registered member
  obtain ⟨registration, present, -, rfl⟩ := countsFor_of_mem_candidates member
  rw [ignore registration present ⟨guard, outcome, subject, atoms, value, registry.options⟩ otherAtoms
    reordered]

end Evaluation

/-- What a registry owes to registrations: the candidates for atoms in a context are the rules that count
for them, in strictly increasing priority and with judges that they were registered with, and the first
of them that reaches a verdict decides. -/
structure FollowsFrom (registry : BarrierRegistry) (options : BarrierOptions)
    (registrations : List Registration) : Prop where
  ordered : ∀ atoms context, (registry.candidateRules atoms context).Pairwise
    fun first second => first.priority < second.priority
  rules : ∀ atoms context rule, rule ∈ registry.candidateRules atoms context ↔
    ∃ registration ∈ registrations, registration.CountsFor atoms context ∧
      registration.registered.rule = rule
  judges : ∀ atoms context, ∀ registered ∈ registry.candidates atoms context,
    ∃ registration ∈ registrations, registration.CountsFor atoms context ∧
      registration.registered = registered
  decided : ∀ guard outcome subject atoms value,
    IsFirstVerdict (registry.candidates atoms (.ofProcessing value.processing))
      ⟨guard, outcome, subject, atoms, value, options⟩
      (registry.evaluate guard outcome subject atoms value)

/-- Registries decide by what is registered.  Where each rule has one judge, the evaluation does not depend
on the order of the registrations; and with judges that ignore the order of atoms, neither the verdict
nor the rule depends on that order. -/
theorem evaluate_by_registrations (options : BarrierOptions) (registrations : List Registration) :
    (ofRegistrations options registrations).FollowsFrom options registrations ∧
    (Registration.HaveSingleJudges registrations →
      ∀ permuted, permuted.Perm registrations → ∀ guard outcome subject atoms value,
        (ofRegistrations options permuted).evaluate guard outcome subject atoms value =
          (ofRegistrations options registrations).evaluate guard outcome subject atoms value ∧
        ((∀ registration ∈ registrations, registration.registered.judge.IgnoresOrder) →
          ∀ reordered, reordered.Perm atoms →
          ((ofRegistrations options permuted).evaluate guard outcome subject reordered
              value).verdict =
            ((ofRegistrations options registrations).evaluate guard outcome subject atoms
              value).verdict ∧
          ((ofRegistrations options permuted).evaluate guard outcome subject reordered value).rule =
            ((ofRegistrations options registrations).evaluate guard outcome subject atoms
              value).rule)) := by
  simp only [ofRegistrations_eq]
  constructor
  · constructor
    · exact candidateRules_ordered _
    · exact fun atoms context rule => mem_candidateRules
    · exact fun atoms context registered => countsFor_of_mem_candidates
    · exact evaluate_isFirstVerdict ⟨registrations, options⟩
  · intro single permuted isPermuted guard outcome subject atoms value
    have sameEvaluation (atoms : List GuardAtom) :
        (⟨permuted, options⟩ : BarrierRegistry).evaluate guard outcome subject atoms value =
          (⟨registrations, options⟩ : BarrierRegistry).evaluate guard outcome subject atoms value :=
      evaluate_eq_of_perm single isPermuted rfl
    refine ⟨sameEvaluation atoms, fun ignore reordered isReordered => ?_⟩
    rw [sameEvaluation reordered]
    exact @verdict_evaluate_of_perm ⟨registrations, options⟩ atoms reordered guard outcome subject value
      single ignore isReordered

/-- Registries with own judges have one judge for each rule. -/
theorem HasOwnJudges.haveSingleJudges {registry : BarrierRegistry} (own : registry.HasOwnJudges) :
    Registration.HaveSingleJudges registry.registrations := by
  intro first isFirst second isSecond sameRule
  have firstOwn := own first isFirst
  rw [sameRule, own second isSecond, Option.some_inj] at firstOwn
  exact firstOwn.symm

end BarrierRegistry

/-- No rule for forwarded paths minds the order of the atoms, but for the reasons that it gives. -/
theorem BarrierRule.ignoresOrder_of_judge? {rule : BarrierRule} {judge : BarrierJudge}
    (own : rule.judge? = some judge) : judge.IgnoresOrder := by
  intro input atoms reordered
  have sameAnswer (test : GuardAtom → Bool) (verdict : BarrierVerdict) :
      (atoms.find? test).map (fun _ => verdict) =
        (input.atoms.find? test).map fun _ => verdict := by
    have sameFound : (atoms.find? test).isSome = (input.atoms.find? test).isSome := by
      rw [Bool.eq_iff_iff, List.find?_isSome, List.find?_isSome]
      simp only [reordered.mem_iff]
    cases isFound : atoms.find? test <;> cases isFound' : input.atoms.find? test <;> simp_all
  have sameEmpty : atoms.isEmpty = input.atoms.isEmpty := by
    rw [Bool.eq_iff_iff, List.isEmpty_iff_length_eq_zero, List.isEmpty_iff_length_eq_zero,
      reordered.length_eq]
  have sameBranch {condition : Prop} [Decidable condition] (verdict : BarrierVerdict)
      (reason otherReason : String) :
      (if condition then some (verdict, reason) else none).map Prod.fst =
        (if condition then some (verdict, otherReason) else none).map Prod.fst := by
    split <;> rfl
  cases rule <;> simp only [judge?, Option.some.injEq, reduceCtorEq] at own <;> subst own
  case exactLiteralMatch =>
    simp only [judgeExactLiteralMatch, Option.map_map]
    exact sameAnswer _ .effective
  case nonCanonicalLiteral =>
    simp only [judgeNonCanonicalLiteral, Option.map_map]
    exact sameAnswer _ .ineffective
  case malformedGuard =>
    simp only [judgeMalformedGuard, sameEmpty, BarrierInput.subjectText]
  -- The others look at the value and the options alone.
  case canonicalAllowList =>
    by_cases speaks : input.value.processing.decode ≠ .canonical ∨ !input.value.hasAllowPrefix
    · rw [judgeCanonicalAllowList, judgeCanonicalAllowList, if_pos speaks, if_pos speaks]
    · rw [judgeCanonicalAllowList, judgeCanonicalAllowList, if_neg speaks, if_neg speaks]
      split <;> rfl
  case canonicalDenyList =>
    by_cases speaks : input.value.processing.decode ≠ .canonical
    · rw [judgeCanonicalDenyList, judgeCanonicalDenyList, if_pos speaks, if_pos speaks]
    · rw [judgeCanonicalDenyList, judgeCanonicalDenyList, if_neg speaks, if_neg speaks]
      cases input.value.hasDenyPrefix <;>
        cases decide (Check.noTraversal ∈ input.value.checks) <;> rfl
  all_goals exact sameBranch _ _ _

/-! A guard of two checks, with rules that are registered for both. -/

namespace DenyList

def atoms : List GuardAtom :=
  [⟨"path", .startsWith, .literal "/WEB-INF/", true⟩, ⟨"path", .contains, .literal "..", true⟩]

def guard : GuardCondition :=
  ⟨0, "!path.startsWith(\"/WEB-INF/\") && !path.contains(\"..\")", .zero, atoms, [], [], none⟩

/-- A decoded path behind the guard. -/
def value : TaintValue :=
  GuardAtom.applyAll ⟨.tainted, { Processing.fresh with decode := .canonical }, .empty⟩ atoms

/-- The rules for forwarded paths, the last one first. -/
def reversed : BarrierRegistry :=
  .ofRegistrations ⟨false⟩ (BarrierRegistry.standard ⟨false⟩).registrations.reverse

/-- Registered in reverse, the rules reach the same verdict on the atoms in reverse. -/
theorem evaluate_reversed :
    Registration.HaveSingleJudges (BarrierRegistry.standard ⟨false⟩).registrations ∧
    (BarrierRegistry.standard ⟨false⟩).registrations.reverse.Perm
      (BarrierRegistry.standard ⟨false⟩).registrations ∧
    (∀ registration ∈ (BarrierRegistry.standard ⟨false⟩).registrations,
      registration.registered.judge.IgnoresOrder) ∧
    atoms.reverse.Perm atoms ∧
    reversed.evaluate guard true "path" atoms value =
      ⟨.effective, .canonicalDenyList,
        "fully decoded \x60path\x60 passes !startsWith(\"/web-inf/\") && !contains(\"..\")"⟩ ∧
    (reversed.evaluate guard true "path" atoms.reverse value).verdict = .effective ∧
    (reversed.evaluate guard true "path" atoms.reverse value).rule = .canonicalDenyList := by
  have own := BarrierRegistry.standard_ownJudges ⟨false⟩
  have ignore : ∀ registration ∈ (BarrierRegistry.standard ⟨false⟩).registrations,
      registration.registered.judge.IgnoresOrder := fun registration present =>
    BarrierRule.ignoresOrder_of_judge? (own registration present)
  have registrationsReversed :=
    List.reverse_perm (BarrierRegistry.standard ⟨false⟩).registrations
  obtain ⟨sameEvaluation, sameVerdict⟩ :=
    (BarrierRegistry.evaluate_by_registrations ⟨false⟩ _).2 own.haveSingleJudges _
      registrationsReversed guard true "path" atoms value
  have inOrder : (BarrierRegistry.ofRegistrations ⟨false⟩
      (BarrierRegistry.standard ⟨false⟩).registrations).evaluate guard true "path" atoms value =
        ⟨.effective, .canonicalDenyList,
          "fully decoded \x60path\x60 passes !startsWith(\"/web-inf/\") && !contains(\"..\")"⟩ := by
    cbv
  obtain ⟨verdict, rule⟩ := sameVerdict ignore atoms.reverse (List.reverse_perm atoms)
  rw [inOrder] at sameEvaluation verdict rule
  exact ⟨own.haveSingleJudges, registrationsReversed, ignore, List.reverse_perm atoms,
    sameEvaluation, verdict, rule⟩

end DenyList

end ForwardTaint
