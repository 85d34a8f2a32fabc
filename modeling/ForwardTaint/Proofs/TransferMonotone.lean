import ForwardTaint.Proofs.EffectiveGuards
import ForwardTaint.Propagation.Transfer

/-!
What nodes do to values grows with the values that reach them, provided that the registry judges
lower values no less effective.  A value holds no checks but those that atoms of the graph's guards
make, so there are never more of them than atoms.
-/

namespace ForwardTaint

namespace TaintValue

/-- Values of unchanged states stay in order when their histories and their checks do. -/
theorem leq_of_parts {first second first' second' : TaintValue} (below : first.leq second = true)
    (state : first'.state = first.state) (state' : second'.state = second.state)
    (processing : first.processing.atLeast second.processing = true →
      first'.processing.atLeast second'.processing = true)
    (checks : (∀ check ∈ second.checks, check ∈ first.checks) →
      ∀ check ∈ second'.checks, check ∈ first'.checks) : first'.leq second' = true := by
  have same : first'.isClean = first.isClean := by rw [isClean, isClean, state]
  have same' : second'.isClean = second.isClean := by rw [isClean, isClean, state']
  cases dirty : first.isClean with
  | true => exact leq_of_clean (same.trans dirty)
  | false =>
      obtain ⟨dirty', heights, better, within⟩ := (leq_iff dirty).1 below
      refine (leq_iff (same.trans dirty)).2 ⟨same'.trans dirty', ?_, processing better, checks within⟩
      rw [state, state']
      exact heights

/-- The canonical form is clean when the value is. -/
theorem isClean_canonicalForm (value : TaintValue) :
    value.canonicalForm.isClean = value.isClean := by
  unfold canonicalForm
  split
  · rename_i isClean
    rw [isClean, isClean_clean]
  · rfl

theorem leq_canonicalForm {first second : TaintValue} (below : first.leq second = true) :
    first.canonicalForm.leq second.canonicalForm = true := by
  cases dirty : first.isClean with
  | true => exact leq_of_clean ((isClean_canonicalForm first).trans dirty)
  | false =>
      have dirty' := ((leq_iff dirty).1 below).1
      rw [canonicalForm, canonicalForm, dirty, dirty']
      exact below

theorem concatenated_mono {first second : TaintValue} (below : first.leq second = true) :
    first.concatenated.leq second.concatenated = true := by
  apply leq_canonicalForm
  refine leq_of_parts below rfl rfl (fun better => ?_) fun _ _ => id
  obtain ⟨decodes, before, seen, -, folded⟩ := Processing.atLeast_iff.1 better
  exact Processing.atLeast_iff.2 ⟨decodes, before, seen, id, folded⟩

theorem throughCall_mono {first second : TaintValue} (below : first.leq second = true) :
    first.throughCall.leq second.throughCall = true := by
  apply leq_canonicalForm
  refine leq_of_parts below rfl rfl (fun better => ?_) fun _ _ => id
  obtain ⟨decodes, before, seen, -, -⟩ := Processing.atLeast_iff.1 better
  exact Processing.atLeast_iff.2 ⟨decodes, before, seen, id, id⟩

/-- Decoding once keeps the order of levels. -/
theorem decoded_mono {first second : TaintValue} (below : first.leq second = true) :
    first.decoded.leq second.decoded = true := by
  refine leq_of_parts below rfl rfl (fun better => ?_) fun _ _ => id
  obtain ⟨decodes, before, -, -, -⟩ := Processing.atLeast_iff.1 better
  refine Processing.atLeast_iff.2 ⟨?_, before, id, id, id⟩
  simp only [decoded]
  cases level : first.processing.decode <;> cases level' : second.processing.decode <;>
    simp_all [DecodeLevel.distance]

theorem state_normalized (value : TaintValue) : value.normalized.state = value.state := by
  unfold normalized
  split <;> rfl

/-- Removing dot segments is final only on decoded values, and those are the lower ones. -/
theorem normalized_mono {first second : TaintValue} (below : first.leq second = true) :
    first.normalized.leq second.normalized = true := by
  refine leq_of_parts below (state_normalized first) (state_normalized second) (fun better => ?_) ?_
  · obtain ⟨decodes, before, seen, normal, folded⟩ := Processing.atLeast_iff.1 better
    unfold normalized
    by_cases canonical' : second.processing.decode = .canonical
    · have canonical : first.processing.decode = .canonical := by
        rw [DecodeLevel.distance_eq_zero.2 canonical'] at decodes
        exact DecodeLevel.distance_eq_zero.1 (Nat.le_zero.1 decodes)
      rw [if_pos canonical, if_pos canonical']
      exact Processing.atLeast_iff.2 ⟨decodes, before, seen, fun _ => rfl, folded⟩
    · rw [if_neg canonical']
      split
      · exact Processing.atLeast_iff.2 ⟨decodes, fun _ => rfl, seen, fun _ => rfl, folded⟩
      · exact Processing.atLeast_iff.2 ⟨decodes, fun _ => rfl, seen, normal, folded⟩
  · intro within
    have same (value : TaintValue) : value.normalized.checks = value.checks := by
      unfold normalized
      split <;> rfl
    rw [same first, same second]
    exact within

theorem caseFolded_mono {first second : TaintValue} (below : first.leq second = true) :
    first.caseFolded.leq second.caseFolded = true := by
  refine leq_of_parts below rfl rfl (fun better => ?_) id
  obtain ⟨decodes, before, seen, normal, -⟩ := Processing.atLeast_iff.1 better
  exact Processing.atLeast_iff.2 ⟨decodes, before, seen, normal, fun _ => rfl⟩

/-- A sanitizer keeps the state of a value. -/
theorem isClean_sanitized (kind : SanitizerKind) (value : TaintValue) :
    (value.sanitized kind).isClean = value.isClean := by
  unfold sanitized
  split
  · rename_i isClean
    rw [isClean, isClean_clean]
  · cases kind with
    | decode | caseFold => rfl
    | normalize =>
        change value.normalized.isClean = value.isClean
        rw [isClean, isClean, state_normalized]

theorem sanitized_mono (kind : SanitizerKind) {first second : TaintValue}
    (below : first.leq second = true) :
    (first.sanitized kind).leq (second.sanitized kind) = true := by
  cases dirty : first.isClean with
  | true => exact leq_of_clean ((isClean_sanitized kind first).trans dirty)
  | false =>
      have dirty' := ((leq_iff dirty).1 below).1
      unfold sanitized
      rw [dirty, dirty', if_neg Bool.false_ne_true, if_neg Bool.false_ne_true]
      cases kind with
      | decode => exact decoded_mono below
      | normalize => exact normalized_mono below
      | caseFold => exact caseFolded_mono below

end TaintValue

namespace GuardAtom

/-- The check that a value passes with the atom, if it is one that is kept. -/
def check? (atom : GuardAtom) : Option Check :=
  match atom.operator, atom.negated, atom.operand.knownValue? with
  | .startsWith, false, some literal =>
      let (start, canMatch) := CanonicalLiteral.allowKey literal
      if canMatch then some (.allowPrefix start) else none
  | .startsWith, true, some literal =>
      let (start, canMatch) := CanonicalLiteral.denyKey literal
      if canMatch then some (.denyPrefix start) else none
  | .contains, true, some part =>
      if Text.contains ".." part then some .noTraversal
      else if part = "%" then some .noEncoding
      else none
  | .equals, false, some text => some (.exactMatch text)
  | .equalsIgnoreCase, false, some text => some (.exactMatch (Text.lowercase text))
  | _, _, _ => none

/-- What the atom says of the history of a value: whether it has escapes. -/
def refineProcessing (atom : GuardAtom) (processing : Processing) : Processing :=
  match atom.operator, atom.negated, atom.operand.knownValue? with
  | .contains, true, some part =>
      if !Text.contains ".." part && part == "%" then
        { processing with decode := .canonical, encodingSeen := false }
      else processing
  | .contains, false, some part =>
      if part = "%" then { processing with encodingSeen := true } else processing
  | _, _, _ => processing

/-- An atom keeps the state of a value, refines its history and adds its check. -/
theorem apply_eq (value : TaintValue) (atom : GuardAtom) :
    apply value atom = ⟨value.state, atom.refineProcessing value.processing,
      (atom.check?.map value.checks.insert).getD value.checks⟩ := by
  unfold apply check? refineProcessing
  cases atom.operator <;> cases atom.negated <;> cases atom.operand.knownValue? <;>
    simp only [Option.map_none, Option.map_some, Option.getD_none, Option.getD_some]
  · rename_i literal
    cases CanonicalLiteral.allowKey literal with
    | mk start canMatch => cases canMatch <;> rfl
  · rename_i literal
    cases CanonicalLiteral.denyKey literal with
    | mk start canMatch => cases canMatch <;> rfl
  · rename_i part
    by_cases escape : part = "%" <;> simp [escape]
  · rename_i part
    by_cases traversal : Text.contains ".." part = true <;> by_cases escape : part = "%" <;>
      simp_all

/-- An atom refines histories in order. -/
theorem refineProcessing_mono (atom : GuardAtom) {first second : Processing}
    (better : first.atLeast second = true) :
    (atom.refineProcessing first).atLeast (atom.refineProcessing second) = true := by
  obtain ⟨-, before, -, normal, folded⟩ := Processing.atLeast_iff.1 better
  unfold refineProcessing
  split
  · split
    · exact Processing.atLeast_iff.2 ⟨Nat.le_refl _, before, id, normal, folded⟩
    · exact better
  · split
    · exact Processing.atLeast_iff.2
        ⟨(Processing.atLeast_iff.1 better).1, before, fun _ => rfl, normal, folded⟩
    · exact better
  · exact better

/-- The checks of a value that passed an atom are its own and that of the atom. -/
theorem mem_apply {value : TaintValue} {atom : GuardAtom} {check : Check} :
    check ∈ (apply value atom).checks ↔ check ∈ value.checks ∨ atom.check? = some check := by
  rw [apply_eq]
  cases atom.check? with
  | none => simp
  | some own =>
      change check ∈ value.checks.insert own ↔ _
      rw [CheckSet.mem_insert, Option.some_inj, or_comm, eq_comm]

theorem apply_mono (atom : GuardAtom) {first second : TaintValue}
    (below : first.leq second = true) : (apply first atom).leq (apply second atom) = true := by
  refine TaintValue.leq_of_parts below (by rw [apply_eq]) (by rw [apply_eq]) ?_ ?_
  · intro better
    rw [apply_eq, apply_eq]
    exact atom.refineProcessing_mono better
  · intro within check member
    rw [mem_apply] at *
    exact member.imp_left (within check)

theorem isClean_applyAll (atoms : List GuardAtom) (value : TaintValue) :
    (applyAll value atoms).isClean = value.isClean := by
  induction atoms generalizing value with
  | nil => rfl
  | cons atom atoms inductionHypothesis =>
      rw [applyAll, List.foldl_cons, ← applyAll, inductionHypothesis, apply_eq]
      rfl

theorem mem_applyAll {atoms : List GuardAtom} {value : TaintValue} {check : Check} :
    check ∈ (applyAll value atoms).checks ↔
      check ∈ value.checks ∨ ∃ atom ∈ atoms, atom.check? = some check := by
  induction atoms generalizing value with
  | nil => simp [applyAll]
  | cons atom atoms inductionHypothesis =>
      rw [applyAll, List.foldl_cons, ← applyAll, inductionHypothesis, mem_apply, or_assoc]
      simp only [List.mem_cons, exists_eq_or_imp]

theorem applyAll_mono (atoms : List GuardAtom) {first second : TaintValue}
    (below : first.leq second = true) :
    (applyAll first atoms).leq (applyAll second atoms) = true := by
  induction atoms generalizing first second with
  | nil => exact below
  | cons atom atoms inductionHypothesis => exact inductionHypothesis (apply_mono atom below)

end GuardAtom

namespace NodeValues

/-- The values are below others at every node. -/
def Below (lower upper : NodeValues) : Prop :=
  ∀ number, (lower.at number).leq (upper.at number) = true

/-- All values are in canonical form. -/
def AreCanonical (values : NodeValues) : Prop := ∀ number, (values.at number).IsCanonical

theorem below_refl (values : NodeValues) : values.Below values := fun _ => TaintValue.leq_refl _

/-- The joined value is below a bound when all values are. -/
theorem joined_leq_iff {values : NodeValues} {nodes : List Nat} {bound : TaintValue} :
    (values.joined nodes).leq bound = true ↔
      ∀ node ∈ nodes, (values.at node).leq bound = true := by
  have fold (start : TaintValue) :
      (nodes.foldl (fun value node => value.join (values.at node)) start).leq bound = true ↔
        start.leq bound = true ∧ ∀ node ∈ nodes, (values.at node).leq bound = true := by
    induction nodes generalizing start with
    | nil => simp
    | cons node nodes inductionHypothesis =>
        rw [List.foldl_cons, inductionHypothesis, List.forall_mem_cons, ← and_assoc]
        refine and_congr_left fun _ => ⟨fun joined => ?_, fun both => TaintValue.join_leq both.1 both.2⟩
        exact ⟨TaintValue.leq_trans (TaintValue.leq_join_left _ _) joined,
          TaintValue.leq_trans (TaintValue.leq_join_right _ _) joined⟩
  rw [joined, fold]
  exact and_iff_right (TaintValue.leq_of_clean TaintValue.isClean_clean)

theorem leq_joined {values : NodeValues} {nodes : List Nat} {node : Nat} (member : node ∈ nodes) :
    (values.at node).leq (values.joined nodes) = true :=
  joined_leq_iff.1 (TaintValue.leq_refl _) node member

/-- The joined value grows with the values. -/
theorem joined_mono {lower upper : NodeValues} (below : lower.Below upper) (nodes : List Nat) :
    (lower.joined nodes).leq (upper.joined nodes) = true :=
  joined_leq_iff.2 fun node member => TaintValue.leq_trans (below node) (leq_joined member)

/-- The joined value depends on the values at its nodes only. -/
theorem joined_congr {first second : NodeValues} {nodes : List Nat}
    (same : ∀ node ∈ nodes, first.at node = second.at node) :
    first.joined nodes = second.joined nodes := by
  apply List.foldl_ext
  intro value node member
  rw [same node member]

/-- What holds of the clean value, and of joins of values at the nodes, holds of the joined value. -/
theorem joined_induction {values : NodeValues} {nodes : List Nat} {motive : TaintValue → Prop}
    (clean : motive .clean)
    (join : ∀ value, motive value → ∀ node ∈ nodes, motive (value.join (values.at node))) :
    motive (values.joined nodes) := by
  have fold (start : TaintValue) (holds : motive start) :
      motive (nodes.foldl (fun value node => value.join (values.at node)) start) := by
    induction nodes generalizing start with
    | nil => exact holds
    | cons node nodes inductionHypothesis =>
        exact inductionHypothesis
          (fun value holds other member => join value holds other (List.mem_cons_of_mem _ member))
          _ (join start holds node List.mem_cons_self)
  exact fold .clean clean

theorem canonical_joined {values : NodeValues} (canonical : values.AreCanonical)
    (nodes : List Nat) : (values.joined nodes).IsCanonical :=
  joined_induction TaintValue.canonical_clean fun _ _ node _ =>
    TaintValue.canonical_join (canonical node)

/-- Nodes listed in another order have the same joined value. -/
theorem joined_perm {values : NodeValues} (canonical : values.AreCanonical) {nodes nodes' : List Nat}
    (permuted : nodes.Perm nodes') : values.joined nodes = values.joined nodes' :=
  TaintValue.leq_antisymm (canonical_joined canonical _) (canonical_joined canonical _)
    (joined_leq_iff.2 fun _ member => leq_joined (permuted.mem_iff.1 member))
    (joined_leq_iff.2 fun _ member => leq_joined (permuted.mem_iff.2 member))

end NodeValues

namespace FlowGraph

variable {graph : FlowGraph} {registry : BarrierRegistry} {seed : Nat}

theorem guardOutput_of_clean {guard : Nat} {outcome : Bool} {variableName : Option String}
    {input : TaintValue} (isClean : input.isClean = true) :
    graph.guardOutput registry guard outcome variableName input = ⟨.clean, none⟩ := by
  unfold guardOutput
  rw [if_pos isClean]

/-- The output of a guard node for a value that is not clean. -/
theorem guardOutput_of_dirty {guard : Nat} {outcome : Bool} {condition : GuardCondition}
    {subject : String} {input : TaintValue} (dirty : input.isClean = false)
    (known : graph.guards[guard]? = some condition) :
    graph.guardOutput registry guard outcome (some subject) input =
      let atoms := condition.atomsOf subject outcome
      let refined := GuardAtom.applyAll input atoms
      let evaluation := registry.evaluate condition outcome subject atoms refined
      ⟨if evaluation.verdict.isEffective then .clean else refined, some evaluation⟩ := by
  unfold guardOutput
  rw [dirty, if_neg Bool.false_ne_true, known]

/-- A guard that is effective on a value is effective on all lower ones that are not clean, so its
output grows with the value. -/
theorem guardOutput_mono (antitone : registry.IsAntitone) {guard : Nat} {outcome : Bool}
    {variableName : Option String} {lower upper : TaintValue} (below : lower.leq upper = true) :
    (graph.guardOutput registry guard outcome variableName lower).value.leq
      (graph.guardOutput registry guard outcome variableName upper).value = true := by
  cases dirty : lower.isClean with
  | true =>
      rw [guardOutput_of_clean dirty]
      exact TaintValue.leq_of_clean TaintValue.isClean_clean
  | false =>
      have dirty' := ((TaintValue.leq_iff dirty).1 below).1
      cases known : graph.guards[guard]? with
      | none => simpa [guardOutput, dirty, dirty', known] using below
      | some condition =>
          cases variableName with
          | none => simpa [guardOutput, dirty, dirty', known] using below
          | some subject =>
              rw [guardOutput_of_dirty dirty known, guardOutput_of_dirty dirty' known]
              have refined := GuardAtom.applyAll_mono (condition.atomsOf subject outcome) below
              have dirtyRefined := (GuardAtom.isClean_applyAll
                (condition.atomsOf subject outcome) lower).trans dirty
              simp only
              split
              · exact TaintValue.leq_of_clean TaintValue.isClean_clean
              · rename_i ineffective
                split
                · rename_i effective
                  exact absurd (antitone _ _ _ _ _ _ dirtyRefined refined effective) ineffective
                · exact refined

/-- What a node does to the values grows with them. -/
theorem transfer_mono (antitone : registry.IsAntitone) {lower upper : NodeValues}
    (below : lower.Below upper) (number : Nat) (node : FlowNode) :
    (graph.transfer registry seed lower number node).value.leq
      (graph.transfer registry seed upper number node).value = true := by
  have input : (graph.input lower number).leq (graph.input upper number) = true :=
    NodeValues.joined_mono below _
  unfold transfer
  cases node.kind with
  | sourceCall | literal => exact TaintValue.leq_refl _
  | variableRef =>
      simp only
      split
      · exact TaintValue.leq_refl _
      · exact input
  | phi => exact input
  | concat => exact TaintValue.concatenated_mono input
  | call | sinkCall => exact TaintValue.throughCall_mono input
  | sanitizerCall kind => exact TaintValue.sanitized_mono kind input
  | guard => exact guardOutput_mono antitone input

/-- What a node does depends on the values that reach it only. -/
theorem transfer_congr {first second : NodeValues} {number : Nat}
    (same : ∀ other ∈ graph.taintSources number, first.at other = second.at other)
    (node : FlowNode) :
    graph.transfer registry seed first number node =
      graph.transfer registry seed second number node := by
  have input : graph.input first number = graph.input second number := NodeValues.joined_congr same
  unfold transfer
  rw [input]

/-- The outputs of nodes are canonical when the values are. -/
theorem canonical_transfer {values : NodeValues} (canonical : values.AreCanonical) (number : Nat)
    (node : FlowNode) : (graph.transfer registry seed values number node).value.IsCanonical := by
  have input : (graph.input values number).IsCanonical := NodeValues.canonical_joined canonical _
  unfold transfer
  cases node.kind with
  | sourceCall =>
      simp only
      split
      · exact TaintValue.canonical_of_not_clean rfl
      · exact TaintValue.canonical_clean
  | literal => exact TaintValue.canonical_clean
  | variableRef =>
      simp only
      split
      · exact TaintValue.canonical_of_not_clean rfl
      · exact input
  | phi => exact input
  | concat | call | sinkCall => exact TaintValue.canonical_canonicalForm _
  | sanitizerCall kind =>
      intro isClean
      rw [TaintValue.isClean_sanitized] at isClean
      simp [TaintValue.sanitized, isClean]
  | guard guard outcome =>
      simp only
      cases dirty : (graph.input values number).isClean with
      | true =>
          rw [guardOutput_of_clean dirty]
          exact TaintValue.canonical_clean
      | false =>
          unfold guardOutput
          rw [dirty, if_neg Bool.false_ne_true]
          split
          · simp only
            split
            · exact TaintValue.canonical_clean
            · exact TaintValue.canonical_of_not_clean
                ((GuardAtom.isClean_applyAll _ _).trans dirty)
          · exact input

/-- The checks that atoms of the graph's guards make. -/
def checks (graph : FlowGraph) : List Check :=
  (graph.guards.toList.flatMap fun guard => guard.onTrue ++ guard.onFalse).filterMap
    GuardAtom.check?

/-- There are no more checks than atoms. -/
theorem length_checks_le (graph : FlowGraph) : graph.checks.length ≤ graph.atomCount := by
  have counted (guards : List GuardCondition) (count : Nat) :
      guards.foldl (fun count guard => count + guard.onTrue.length + guard.onFalse.length) count =
        count + (guards.flatMap fun guard => guard.onTrue ++ guard.onFalse).length := by
    induction guards generalizing count with
    | nil => rfl
    | cons guard guards inductionHypothesis =>
        rw [List.foldl_cons, inductionHypothesis, List.flatMap_cons, List.length_append,
          List.length_append]
        omega
  rw [atomCount, counted, Nat.zero_add]
  exact List.length_filterMap_le _ _

/-- The value holds checks of the graph's atoms only. -/
def Holds (graph : FlowGraph) (value : TaintValue) : Prop :=
  ∀ check ∈ value.checks, check ∈ graph.checks

theorem size_le_atomCount {value : TaintValue} (holds : graph.Holds value) :
    value.checks.size ≤ graph.atomCount :=
  Nat.le_trans (CheckSet.size_le holds) graph.length_checks_le

theorem holds_of_no_checks {value : TaintValue} (none : value.checks = .empty) :
    graph.Holds value := by
  intro check member
  rw [none] at member
  exact absurd member (CheckSet.not_mem_empty check)

theorem holds_join {first second : TaintValue} (left : graph.Holds first)
    (right : graph.Holds second) : graph.Holds (first.join second) := by
  unfold TaintValue.join
  split
  · exact right
  · split
    · exact left
    · exact fun check member => left check (CheckSet.mem_inter.1 member).1

theorem holds_canonicalForm {value : TaintValue} (holds : graph.Holds value) :
    graph.Holds value.canonicalForm := by
  unfold TaintValue.canonicalForm
  split
  · exact holds_of_no_checks rfl
  · exact holds

theorem holds_sanitized (kind : SanitizerKind) {value : TaintValue} (holds : graph.Holds value) :
    graph.Holds (value.sanitized kind) := by
  unfold TaintValue.sanitized
  split
  · exact holds_of_no_checks rfl
  · cases kind with
    | decode => exact holds_of_no_checks rfl
    | caseFold => exact holds
    | normalize =>
        change graph.Holds value.normalized
        unfold TaintValue.normalized
        split <;> exact holds

theorem holds_applyAll {guard : Nat} {condition : GuardCondition}
    (known : graph.guards[guard]? = some condition) (subject : String) (outcome : Bool)
    {value : TaintValue} (holds : graph.Holds value) :
    graph.Holds (GuardAtom.applyAll value (condition.atomsOf subject outcome)) := by
  intro check member
  rcases GuardAtom.mem_applyAll.1 member with own | ⟨atom, made, adds⟩
  · exact holds check own
  · refine List.mem_filterMap.2 ⟨atom, List.mem_flatMap.2 ⟨condition, ?_, ?_⟩, adds⟩
    · exact Array.mem_toList_iff.2 (Array.mem_of_getElem? known)
    · have present : atom ∈ condition.atoms outcome := (List.mem_filter.1 made).1
      unfold GuardCondition.atoms at present
      split at present
      · exact List.mem_append_left _ present
      · exact List.mem_append_right _ present

/-- The outputs of nodes hold checks of the graph's atoms only when the values do. -/
theorem holds_transfer {values : NodeValues} (holds : ∀ number, graph.Holds (values.at number))
    (number : Nat) (node : FlowNode) :
    graph.Holds (graph.transfer registry seed values number node).value := by
  have input : graph.Holds (graph.input values number) :=
    NodeValues.joined_induction (holds_of_no_checks rfl) fun _ held other _ =>
      holds_join held (holds other)
  unfold transfer
  cases node.kind with
  | sourceCall =>
      simp only
      split <;> exact holds_of_no_checks rfl
  | literal => exact holds_of_no_checks rfl
  | variableRef =>
      simp only
      split
      · exact holds_of_no_checks rfl
      · exact input
  | phi => exact input
  | concat | call | sinkCall => exact holds_canonicalForm (holds_of_no_checks rfl)
  | sanitizerCall kind => exact holds_sanitized kind input
  | guard guard outcome =>
      simp only [guardOutput]
      split
      · exact holds_of_no_checks rfl
      · split
        · rename_i known _
          simp only
          split
          · exact holds_of_no_checks rfl
          · exact holds_applyAll known _ _ input
        · exact input

end FlowGraph

end ForwardTaint
