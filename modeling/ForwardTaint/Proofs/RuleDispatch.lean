import ForwardTaint.Barrier.Registry
import ForwardTaint.Proofs.TaintOrder

/-!
Which barrier rule decides.  The candidates for a guard stand in strictly increasing priority, and
the first conclusive one gives the verdict; for the rules of forwarded paths this says exactly
when a guard is effective, and that it stays effective on a lower value.
-/

namespace ForwardTaint

namespace BarrierRule

/-- No two rules have one priority. -/
theorem eq_of_priority {first second : BarrierRule} (same : first.priority = second.priority) :
    first = second := by
  cases first <;> cases second <;> first | rfl | simp [priority] at same

end BarrierRule

namespace RegisteredRule

theorem mem_byPriority {rules : List RegisteredRule} {registered : RegisteredRule} :
    registered ∈ byPriority rules ↔ registered ∈ rules := List.mem_mergeSort

theorem byPriority_ordered (rules : List RegisteredRule) :
    (byPriority rules).Pairwise fun first second => first.rule.priority ≤ second.rule.priority := by
  let before (first second : RegisteredRule) : Bool :=
    decide (first.rule.priority ≤ second.rule.priority)
  have transitive (first second third : RegisteredRule) (left : before first second = true)
      (right : before second third = true) : before first third = true := by
    simp only [before, decide_eq_true_eq] at *
    omega
  have total (first second : RegisteredRule) :
      (before first second || before second first) = true := by
    simp only [before, Bool.or_eq_true, decide_eq_true_eq]
    omega
  have ordered : (byPriority rules).Pairwise fun first second => before first second = true :=
    List.pairwise_mergeSort transitive total rules
  exact ordered.imp fun before => of_decide_eq_true before

/-- Among rules in strictly increasing priority the first answer is that of the conclusive rule
before which no other one is conclusive. -/
theorem findSome?_iff {Answer : Type} {rules : List RegisteredRule}
    (ordered : rules.Pairwise fun first second => first.rule.priority < second.rule.priority)
    {ask : RegisteredRule → Option Answer} {answer : Answer} :
    rules.findSome? ask = some answer ↔
      ∃ registered ∈ rules, ask registered = some answer ∧
        ∀ other ∈ rules, other.rule.priority < registered.rule.priority → ask other = none := by
  constructor
  · intro found
    obtain ⟨before, registered, after, rfl, answers, silent⟩ :=
      List.findSome?_eq_some_iff.1 found
    refine ⟨registered, List.mem_append_right _ List.mem_cons_self, answers, ?_⟩
    intro other member earlier
    rcases List.mem_append.1 member with inFront | behind
    · exact silent other inFront
    · have notLater : other ∉ after := fun later => by
        have := (List.pairwise_cons.1 (List.pairwise_append.1 ordered).2.1).1 other later
        omega
      have same : other = registered := (List.mem_cons.1 behind).resolve_right notLater
      exact absurd earlier (same ▸ Nat.lt_irrefl _)
  · rintro ⟨registered, member, answers, silent⟩
    obtain ⟨before, after, rfl⟩ := List.append_of_mem member
    refine List.findSome?_eq_some_iff.2 ⟨before, registered, after, rfl, answers, ?_⟩
    intro other inFront
    exact silent other (List.mem_append_left _ inFront)
      ((List.pairwise_append.1 ordered).2.2 other inFront registered List.mem_cons_self)

/-- A rule is added by its name only once. -/
theorem addNew_distinct {rules : List RegisteredRule} (registered : RegisteredRule)
    (distinct : rules.Pairwise fun first second => first.rule ≠ second.rule) :
    (addNew rules registered).Pairwise fun first second => first.rule ≠ second.rule := by
  unfold addNew
  split
  · exact distinct
  · rename_i absent
    simp only [List.any_eq_true, beq_iff_eq, not_exists, not_and] at absent
    refine List.pairwise_append.2 ⟨distinct, List.pairwise_singleton _ _, ?_⟩
    intro known member other isNew
    rw [List.mem_singleton.1 isNew]
    exact absent known member

theorem addAll_distinct (more : List RegisteredRule) {rules : List RegisteredRule}
    (distinct : rules.Pairwise fun first second => first.rule ≠ second.rule) :
    (more.foldl addNew rules).Pairwise fun first second => first.rule ≠ second.rule := by
  induction more generalizing rules with
  | nil => exact distinct
  | cons registered more inductionHypothesis =>
      exact inductionHypothesis (addNew_distinct registered distinct)

/-- Adding rules invents none. -/
theorem mem_of_mem_addAll {more rules : List RegisteredRule} {registered : RegisteredRule}
    (member : registered ∈ more.foldl addNew rules) : registered ∈ rules ∨ registered ∈ more := by
  induction more generalizing rules with
  | nil => exact .inl member
  | cons first more inductionHypothesis =>
      rcases inductionHypothesis member with known | later
      · unfold addNew at known
        split at known
        · exact .inl known
        · rcases List.mem_append.1 known with known | isFirst
          · exact .inl known
          · exact .inr (List.mem_singleton.1 isFirst ▸ List.mem_cons_self)
      · exact .inr (List.mem_cons_of_mem _ later)

/-- Adding rules keeps each name. -/
theorem exists_addAll {more rules : List RegisteredRule} {registered : RegisteredRule}
    (member : registered ∈ rules ∨ registered ∈ more) :
    ∃ known ∈ more.foldl addNew rules, known.rule = registered.rule := by
  induction more generalizing rules registered with
  | nil => exact ⟨registered, member.resolve_right List.not_mem_nil, rfl⟩
  | cons first more inductionHypothesis =>
      have present : registered ∈ more ∨
          ∃ known ∈ addNew rules first, known.rule = registered.rule := by
        unfold addNew
        rcases member with old | isNew
        · split
          · exact .inr ⟨registered, old, rfl⟩
          · exact .inr ⟨registered, List.mem_append_left _ old, rfl⟩
        · rcases List.mem_cons.1 isNew with rfl | later
          · split
            · rename_i found
              obtain ⟨known, member, same⟩ := List.any_eq_true.1 found
              exact .inr ⟨known, member, eq_of_beq same⟩
            · exact .inr ⟨registered, List.mem_append_right _ (List.mem_singleton_self _), rfl⟩
          · exact .inl later
      rcases present with later | ⟨known, member, same⟩
      · exact inductionHypothesis (.inr later)
      · obtain ⟨other, member', same'⟩ := inductionHypothesis (.inl member)
        exact ⟨other, member', same'.trans same⟩

end RegisteredRule

namespace BarrierRegistry

/-- The registry has the rule for the check in the context. -/
def Registers (registry : BarrierRegistry) (operator : CheckOperator) (context : DecodeContext)
    (rule : BarrierRule) : Prop :=
  ∃ registration ∈ registry.registrations, registration.operator = operator ∧
    registration.context = context ∧ registration.registered.rule = rule

/-- The registry has the rule in the context for one of the checks that atoms make. -/
def Applies (registry : BarrierRegistry) (atoms : List GuardAtom) (context : DecodeContext)
    (rule : BarrierRule) : Prop :=
  ∃ operator ∈ operatorsOf atoms, registry.Registers operator context rule

/-- Every rule is registered with its own judge. -/
def HasOwnJudges (registry : BarrierRegistry) : Prop :=
  ∀ registration ∈ registry.registrations,
    registration.registered.rule.judge? = some registration.registered.judge

/-- A rule for a check in a context was registered there. -/
theorem mem_rules {registry : BarrierRegistry} {operator : CheckOperator}
    {context : DecodeContext} {registered : RegisteredRule}
    (member : registered ∈ registry.rules operator context) :
    ∃ registration ∈ registry.registrations, registration.operator = operator ∧
      registration.context = context ∧ registration.registered = registered := by
  have added := RegisteredRule.mem_of_mem_addAll (RegisteredRule.mem_byPriority.1 member)
  obtain ⟨registration, present, same⟩ := List.mem_map.1 (added.resolve_left List.not_mem_nil)
  simp only [List.mem_filter, Bool.and_eq_true, beq_iff_eq] at present
  exact ⟨registration, present.1, present.2.1, present.2.2, same⟩

theorem exists_rules {registry : BarrierRegistry} {operator : CheckOperator}
    {context : DecodeContext} {rule : BarrierRule} :
    (∃ registered ∈ registry.rules operator context, registered.rule = rule) ↔
      registry.Registers operator context rule := by
  constructor
  · rintro ⟨registered, member, rfl⟩
    obtain ⟨registration, present, operators, contexts, rfl⟩ := mem_rules member
    exact ⟨registration, present, operators, contexts, rfl⟩
  · rintro ⟨registration, present, rfl, rfl, rfl⟩
    have here : registration.registered ∈ (registry.registrations.filter fun other =>
        other.operator == registration.operator && other.context == registration.context).map
          Registration.registered :=
      List.mem_map_of_mem (List.mem_filter.2 ⟨present, by simp⟩)
    obtain ⟨known, member, same⟩ := @RegisteredRule.exists_addAll _ [] _ (.inr here)
    exact ⟨known, RegisteredRule.mem_byPriority.2 member, same⟩

/-- The candidates are the rules registered for some check of the atoms. -/
theorem exists_candidates {registry : BarrierRegistry} {atoms : List GuardAtom}
    {context : DecodeContext} {rule : BarrierRule} :
    (∃ registered ∈ registry.candidates atoms context, registered.rule = rule) ↔
      registry.Applies atoms context rule := by
  constructor
  · rintro ⟨registered, member, rfl⟩
    have added := RegisteredRule.mem_of_mem_addAll (RegisteredRule.mem_byPriority.1 member)
    obtain ⟨operator, present, member⟩ :=
      List.mem_flatMap.1 (added.resolve_left List.not_mem_nil)
    exact ⟨operator, present, exists_rules.1 ⟨registered, member, rfl⟩⟩
  · rintro ⟨operator, present, registers⟩
    obtain ⟨registered, member, rfl⟩ := exists_rules.2 registers
    have here : registered ∈ (operatorsOf atoms).flatMap fun operator =>
        registry.rules operator context := List.mem_flatMap.2 ⟨operator, present, member⟩
    obtain ⟨known, member, same⟩ := @RegisteredRule.exists_addAll _ [] _ (.inr here)
    exact ⟨known, RegisteredRule.mem_byPriority.2 member, same⟩

/-- A candidate of a registry with own judges has the judge of its rule. -/
theorem judge_of_candidate {registry : BarrierRegistry} (own : registry.HasOwnJudges)
    {atoms : List GuardAtom} {context : DecodeContext} {registered : RegisteredRule}
    (member : registered ∈ registry.candidates atoms context) :
    registered.rule.judge? = some registered.judge := by
  have added := RegisteredRule.mem_of_mem_addAll (RegisteredRule.mem_byPriority.1 member)
  obtain ⟨operator, -, member⟩ := List.mem_flatMap.1 (added.resolve_left List.not_mem_nil)
  obtain ⟨registration, present, -, -, rfl⟩ := mem_rules member
  exact own registration present

/-- The candidates stand in strictly increasing priority. -/
theorem candidates_ordered (registry : BarrierRegistry) (atoms : List GuardAtom)
    (context : DecodeContext) :
    (registry.candidates atoms context).Pairwise fun first second =>
      first.rule.priority < second.rule.priority := by
  have distinct : (registry.candidates atoms context).Pairwise fun first second =>
      first.rule ≠ second.rule := by
    refine (List.Perm.pairwise_iff (fun different => Ne.symm different) ?_).1
      (RegisteredRule.addAll_distinct ((operatorsOf atoms).flatMap fun operator =>
        registry.rules operator context) .nil)
    exact (List.mergeSort_perm _ _).symm
  refine (distinct.and (RegisteredRule.byPriority_ordered _)).imp ?_
  intro first second both
  have different : first.rule.priority ≠ second.rule.priority := fun same =>
    both.1 (BarrierRule.eq_of_priority same)
  omega

end BarrierRegistry

end ForwardTaint
