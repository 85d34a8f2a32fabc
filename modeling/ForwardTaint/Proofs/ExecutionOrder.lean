import ForwardTaint.Analysis.Analyzer
import ForwardTaint.Proofs.AbandonedFlows

/-!
What the machine has to do with a report: without a budget of time nothing but the time that it states.
Neither the clocks nor the order in which workers come to the procedures matter.
-/

namespace ForwardTaint

namespace Collector

variable {Item Result : Type}

/-- The result for each item stands where the item stands, and there are no others. -/
def KeepsOrder (collect : Collector Item Result) : Prop :=
  ∀ items work index, (collect items work)[index]? = items[index]?.map (work index)

theorem KeepsOrder.eq_mapIdx {collect : Collector Item Result} (keepsOrder : collect.KeepsOrder)
    (items : List Item) (work : Nat → Item → Result) :
    collect items work = items.mapIdx work := by
  apply List.ext_getElem?
  intro index
  rw [keepsOrder, List.getElem?_mapIdx]

theorem keepsOrder_inTurn : (inTurn : Collector Item Result).KeepsOrder :=
  fun _ _ _ => List.getElem?_mapIdx

/-- Puts the result for an item into the slot of the item. -/
def fill (items : List Item) (work : Nat → Item → Result) (slots : List (Option Result))
    (index : Nat) : List (Option Result) :=
  match items[index]? with
  | some item => slots.set index (some (work index item))
  | none => slots

/-- Each item has a slot for its result; workers come to the items in an order that depends on how many
there are. -/
def inSlots (order : Nat → List Nat) : Collector Item Result := fun items work =>
  ((order items.length).foldl (fill items work) (List.replicate items.length none)).filterMap id

section Slots

variable {items : List Item} {work : Nat → Item → Result} {slots : List (Option Result)}

theorem length_fill (index : Nat) : (fill items work slots index).length = slots.length := by
  unfold fill
  split
  · exact List.length_set
  · rfl

theorem getElem?_fill {index other : Nat} {item : Item} (present : items[index]? = some item)
    (slotted : slots.length = items.length) :
    (fill items work slots other)[index]? =
      if index = other then some (some (work index item)) else slots[index]? := by
  have inside : index < slots.length := slotted ▸ (List.getElem?_eq_some_iff.1 present).1
  by_cases same : index = other
  · subst same
    rw [fill, present, if_pos rfl]
    exact List.getElem?_set_self inside
  · rw [if_neg same]
    unfold fill
    split
    · exact List.getElem?_set_ne (Ne.symm same)
    · rfl

/-- A slot is filled when a worker has come to its item, no matter what came before and after. -/
theorem getElem?_foldl_fill {order : List Nat} {index : Nat} {item : Item}
    (present : items[index]? = some item) (slotted : slots.length = items.length) :
    (order.foldl (fill items work) slots)[index]? =
      if index ∈ order then some (some (work index item)) else slots[index]? := by
  induction order generalizing slots with
  | nil => simp
  | cons first order inductionHypothesis =>
      rw [List.foldl_cons, inductionHypothesis ((length_fill first).trans slotted),
        getElem?_fill present slotted]
      simp only [List.mem_cons]
      split_ifs <;> simp_all

theorem length_foldl_fill (order : List Nat) :
    (order.foldl (fill items work) slots).length = slots.length := by
  induction order generalizing slots with
  | nil => rfl
  | cons first order inductionHypothesis =>
      rw [List.foldl_cons, inductionHypothesis]
      exact length_fill first

end Slots

/-- Workers that leave out no item fill all slots, whatever their order. -/
theorem keepsOrder_inSlots {order : Nat → List Nat}
    (complete : ∀ count, ∀ index < count, index ∈ order count) :
    (inSlots order : Collector Item Result).KeepsOrder := by
  intro items work index
  have filled : (order items.length).foldl (fill items work) (List.replicate items.length none) =
      (items.mapIdx work).map some := by
    apply List.ext_getElem?
    intro place
    cases present : items[place]? with
    | none =>
        have outside : items.length ≤ place := List.getElem?_eq_none_iff.1 present
        rw [List.getElem?_eq_none, List.getElem?_eq_none]
        · simpa using outside
        · rw [length_foldl_fill, List.length_replicate]
          exact outside
    | some item =>
        have inside := (List.getElem?_eq_some_iff.1 present).1
        rw [getElem?_foldl_fill present List.length_replicate, if_pos (complete _ place inside)]
        simp [present]
  unfold inSlots
  rw [filled]
  simp

/-- Workers that begin with the last item. -/
def backwards : Collector Item Result := inSlots fun count => (List.range count).reverse

theorem keepsOrder_backwards : (backwards : Collector Item Result).KeepsOrder := by
  apply keepsOrder_inSlots
  intro count index inside
  simpa using inside

end Collector

namespace CompilationUnit

/-- Whether a signature was declared before is decided by the procedures before. -/
theorem declaredBefore?_eq {compilationUnit : CompilationUnit} {index : Nat} {procedure : Procedure}
    (present : compilationUnit.procedures[index]? = some procedure) :
    compilationUnit.declaredBefore? index =
      ((compilationUnit.procedures.take index).map Procedure.signature).idxOf?
        procedure.signature := by
  obtain ⟨inside, isThere⟩ := List.getElem?_eq_some_iff.1 present
  have declared : (compilationUnit.procedures.map Procedure.signature)[index]? =
      some procedure.signature := by
    rw [List.getElem?_map, present, Option.map_some]
  have parts : compilationUnit.procedures.map Procedure.signature =
      (compilationUnit.procedures.take index).map Procedure.signature ++ procedure.signature ::
        (compilationUnit.procedures.drop (index + 1)).map Procedure.signature := by
    rw [← List.map_cons, ← List.map_append, ← isThere, ← List.drop_eq_getElem_cons inside,
      List.take_append_drop]
  have count : ((compilationUnit.procedures.take index).map Procedure.signature).length = index := by
    rw [List.length_map, List.length_take, Nat.min_eq_left (Nat.le_of_lt inside)]
  unfold declaredBefore?
  simp only [declared, Option.bind_eq_bind, Option.bind_some]
  rw [parts, List.idxOf_append]
  by_cases before :
      procedure.signature ∈ (compilationUnit.procedures.take index).map Procedure.signature
  · rw [if_pos before, if_neg]
    · obtain ⟨first, isFirst⟩ := Option.isSome_iff_exists.1 (List.isSome_idxOf?.2 before)
      rw [isFirst, List.idxOf_eq_getD_idxOf?, isFirst, Option.getD_some]
    · have less := List.idxOf_lt_length_iff.2 before
      rw [count] at less
      exact Nat.ne_of_lt less
  · rw [if_neg before, List.idxOf?_eq_none_iff.2 before, List.idxOf_cons_self, count, Nat.zero_add,
      if_pos rfl]

end CompilationUnit

namespace Analyzer

variable {analyzer : Analyzer} {compilationUnit : CompilationUnit} {timing : Timing}
  {collect : Collector Procedure ProcedureRun}

/-- Without a budget of time a procedure is analyzed as without a clock. -/
theorem runBefore_unbounded {deadline : Deadline} (unbounded : deadline.budget = none)
    (unitConstants : StringMap String) (procedure : Procedure) :
    analyzer.runBefore deadline unitConstants procedure =
      analyzer.runProcedure unitConstants procedure := by
  unfold runProcedure runBefore
  cases FlowGraph.build analyzer.catalog unitConstants procedure with
  | error error => rfl
  | ok graph =>
      simp only [FlowGraph.propagateBefore_unbounded unbounded]
      rfl

theorem deadline_unbounded (untimed : analyzer.settings.timeout? = none) (timing : Timing)
    (index : Nat) : (analyzer.deadline timing index).budget = none := by
  rw [deadline, untimed, Option.map_none]

/-- Without a budget of time the clocks do not matter for a run. -/
theorem runAt_untimed (untimed : analyzer.settings.timeout? = none) (timing : Timing) (index : Nat)
    (procedure : Procedure) :
    analyzer.runAt timing compilationUnit index procedure =
      analyzer.runAt .stopped compilationUnit index procedure := by
  unfold runAt
  simp only [runBefore_unbounded (deadline_unbounded untimed _ index)]

/-- Workers that keep the order bring the runs in the order of the procedures. -/
theorem runs_eq_mapIdx (keepsOrder : collect.KeepsOrder) (timing : Timing) :
    analyzer.runs timing collect compilationUnit =
      compilationUnit.procedures.mapIdx (analyzer.runAt timing compilationUnit) := by
  unfold runs
  simp only [keepsOrder.eq_mapIdx, ite_self]

theorem runs_untimed (untimed : analyzer.settings.timeout? = none)
    (keepsOrder : collect.KeepsOrder) (timing : Timing) :
    analyzer.runs timing collect compilationUnit =
      analyzer.runs .stopped .inTurn compilationUnit := by
  rw [runs_eq_mapIdx keepsOrder, runs_eq_mapIdx Collector.keepsOrder_inTurn,
    List.mapIdx_eq_mapIdx_iff]
  exact fun index _ => runAt_untimed untimed timing index _

/-- A run fails without a graph, or ends with what propagation through the procedure's graph finds
before the deadline. -/
theorem runAt_cases (analyzer : Analyzer) (timing : Timing) (compilationUnit : CompilationUnit)
    (index : Nat) (procedure : Procedure) :
    (∃ error, analyzer.runAt timing compilationUnit index procedure = .failed procedure error) ∨
      ∃ graph, FlowGraph.build analyzer.catalog compilationUnit.constants procedure = .ok graph ∧
        analyzer.runAt timing compilationUnit index procedure =
          .ended analyzer.settings.explainSuppressed procedure graph
            (graph.propagateBefore (analyzer.deadline timing index) analyzer.registry
              analyzer.limits) := by
  unfold runAt runBefore
  split
  · exact .inl ⟨_, rfl⟩
  · split
    · exact .inl ⟨_, rfl⟩
    · rename_i graph built
      exact .inr ⟨graph, built, rfl⟩

/-- The report of a procedure lists the findings of its run. -/
theorem findings_of_mem_runs (keepsOrder : collect.KeepsOrder) {run : ProcedureRun}
    (member : run ∈ analyzer.runs timing collect compilationUnit) :
    run.report.findings =
      run.findings.map (ReportedFinding.ofFinding analyzer.settings.explainSuppressed) := by
  rw [runs_eq_mapIdx keepsOrder, List.mem_mapIdx] at member
  obtain ⟨index, inside, rfl⟩ := member
  rcases analyzer.runAt_cases timing compilationUnit index compilationUnit.procedures[index] with
    ⟨error, failed⟩ | ⟨graph, -, ended⟩
  · rw [failed]
    rfl
  · rw [ended]
    rfl

/-- Without a budget of time neither the clocks nor the workers matter but for the time that is
reported. -/
theorem execute_untimed (untimed : analyzer.settings.timeout? = none)
    (keepsOrder : collect.KeepsOrder) (timing : Timing) :
    analyzer.execute timing collect compilationUnit =
      { analyzer.analyze compilationUnit with
        statistics := { (analyzer.analyze compilationUnit).statistics with
          milliseconds := timing.elapsed / 1000000 % UInt64.size } } := by
  unfold analyze execute
  rw [runs_untimed untimed keepsOrder timing]

end Analyzer

/-- An analyzer with the catalog of the loop that decodes a path, and without a budget of time. -/
def DecodingLoop.analyzer : Analyzer := ⟨catalog, ⟨50, 0, true, false, true, 10⟩, rfl⟩

end ForwardTaint
