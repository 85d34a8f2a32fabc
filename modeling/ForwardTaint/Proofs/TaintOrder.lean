import ForwardTaint.Taint.Value
import Mathlib.Data.List.Perm.Subperm
import Mathlib.Tactic.Basic

/-!
The order of taint values.  It is reflexive and transitive, and antisymmetric on the values whose
clean one has no history; the join is the least upper bound.  A value that climbs strictly also
gains in badness, as long as its checks fit into the capacity that badness counts with.
-/

namespace ForwardTaint

namespace TaintState

/-- States of one height are equal. -/
theorem eq_of_height {first second : TaintState} (same : first.height = second.height) :
    first = second := by
  cases first <;> cases second <;> simp_all [height]

/-- The height of a join is the greater one. -/
theorem height_join (first second : TaintState) :
    (first.join second).height = max first.height second.height := by
  unfold join
  split <;> omega

theorem height_le_two (state : TaintState) : state.height ≤ 2 := by
  cases state <;> decide

end TaintState

namespace DecodeLevel

/-- Levels of one distance are equal. -/
theorem eq_of_distance {first second : DecodeLevel} (same : first.distance = second.distance) :
    first = second := by
  cases first <;> cases second <;> simp_all [distance]

/-- The distance of the worse level is the greater one. -/
theorem distance_worse (first second : DecodeLevel) :
    (first.worse second).distance = max first.distance second.distance := by
  unfold worse
  split <;> omega

theorem distance_le_two (level : DecodeLevel) : level.distance ≤ 2 := by
  cases level <;> decide

/-- The canonical level is the only one without distance. -/
theorem distance_eq_zero {level : DecodeLevel} : level.distance = 0 ↔ level = .canonical := by
  cases level <;> simp [distance]

end DecodeLevel

namespace Processing

/-- The order of processing, component by component. -/
theorem atLeast_iff {first second : Processing} :
    first.atLeast second = true ↔
      first.decode.distance ≤ second.decode.distance ∧
        (first.normalizedBeforeDecode = true → second.normalizedBeforeDecode = true) ∧
        (first.encodingSeen = true → second.encodingSeen = true) ∧
        (second.normalized = true → first.normalized = true) ∧
        (second.caseFolded = true → first.caseFolded = true) := by
  simp only [atLeast, Bool.and_eq_true, decide_eq_true_eq, Bool.or_eq_true, Bool.not_eq_true',
    and_assoc]
  grind

theorem atLeast_refl (processing : Processing) : processing.atLeast processing = true := by
  simp [atLeast_iff]

theorem atLeast_trans {first second third : Processing} (left : first.atLeast second = true)
    (right : second.atLeast third = true) : first.atLeast third = true := by
  rw [atLeast_iff] at *
  obtain ⟨decodes, before, seen, normalized, folded⟩ := left
  obtain ⟨decodes', before', seen', normalized', folded'⟩ := right
  exact ⟨Nat.le_trans decodes decodes', before' ∘ before, seen' ∘ seen, normalized ∘ normalized',
    folded ∘ folded'⟩

theorem atLeast_antisymm {first second : Processing} (left : first.atLeast second = true)
    (right : second.atLeast first = true) : first = second := by
  rw [atLeast_iff] at *
  obtain ⟨decodes, before, seen, normalized, folded⟩ := left
  obtain ⟨decodes', before', seen', normalized', folded'⟩ := right
  have decode := DecodeLevel.eq_of_distance (Nat.le_antisymm decodes decodes')
  cases first
  cases second
  simp only [mk.injEq]
  exact ⟨decode, Bool.eq_iff_iff.2 ⟨before, before'⟩, Bool.eq_iff_iff.2 ⟨seen, seen'⟩,
    Bool.eq_iff_iff.2 ⟨normalized', normalized⟩, Bool.eq_iff_iff.2 ⟨folded', folded⟩⟩

/-- Each of two histories is at least as good as their join. -/
theorem atLeast_join_left (first second : Processing) :
    first.atLeast (first.join second) = true := by
  rw [atLeast_iff]
  simp only [join, DecodeLevel.distance_worse, Bool.or_eq_true, Bool.and_eq_true]
  grind

theorem atLeast_join_right (first second : Processing) :
    second.atLeast (first.join second) = true := by
  rw [atLeast_iff]
  simp only [join, DecodeLevel.distance_worse, Bool.or_eq_true, Bool.and_eq_true]
  grind

/-- The join is as good as all that both histories are as good as. -/
theorem join_atLeast {first second bound : Processing} (left : first.atLeast bound = true)
    (right : second.atLeast bound = true) : (first.join second).atLeast bound = true := by
  rw [atLeast_iff] at *
  simp only [join, DecodeLevel.distance_worse, Bool.or_eq_true, Bool.and_eq_true]
  grind

theorem badness_le_six (processing : Processing) : processing.badness ≤ 6 := by
  have decode := processing.decode.distance_le_two
  have before := processing.normalizedBeforeDecode.toNat_le
  have seen := processing.encodingSeen.toNat_le
  have normalized := (!processing.normalized).toNat_le
  have folded := (!processing.caseFolded).toNat_le
  unfold badness
  omega

/-- The order of processing is that of the parts which badness adds up. -/
theorem atLeast_iff_parts {first second : Processing} :
    first.atLeast second = true ↔
      first.decode.distance ≤ second.decode.distance ∧
        first.normalizedBeforeDecode.toNat ≤ second.normalizedBeforeDecode.toNat ∧
        first.encodingSeen.toNat ≤ second.encodingSeen.toNat ∧
        (!first.normalized).toNat ≤ (!second.normalized).toNat ∧
        (!first.caseFolded).toNat ≤ (!second.caseFolded).toNat := by
  have part (left right : Bool) : left.toNat ≤ right.toNat ↔ (left = true → right = true) := by
    cases left <;> cases right <;> simp
  have negated (left right : Bool) :
      (!left).toNat ≤ (!right).toNat ↔ (right = true → left = true) := by
    cases left <;> cases right <;> simp
  rw [atLeast_iff, part, part, negated, negated]

theorem badness_le {first second : Processing} (better : first.atLeast second = true) :
    first.badness ≤ second.badness := by
  obtain ⟨decodes, before, seen, normalized, folded⟩ := atLeast_iff_parts.1 better
  unfold badness
  omega

/-- Histories in order that are equally bad are equal. -/
theorem eq_of_badness {first second : Processing} (better : first.atLeast second = true)
    (same : first.badness = second.badness) : first = second := by
  obtain ⟨decodes, before, seen, normalized, folded⟩ := atLeast_iff_parts.1 better
  unfold badness at same
  refine atLeast_antisymm better (atLeast_iff_parts.2 ⟨?_, ?_, ?_, ?_, ?_⟩) <;> omega

end Processing

namespace CheckSet

theorem subset_iff {first second : CheckSet} :
    first.subset second = true ↔ ∀ check ∈ first, check ∈ second := by
  simp only [subset, List.all_eq_true, decide_eq_true_eq]
  rfl

theorem mem_inter {first second : CheckSet} {check : Check} :
    check ∈ first.inter second ↔ check ∈ first ∧ check ∈ second := by
  change check ∈ first.checks.filter (fun check => decide (check ∈ second)) ↔ _
  rw [List.mem_filter, decide_eq_true_eq]
  rfl

theorem not_mem_empty (check : Check) : check ∉ empty := List.not_mem_nil

/-- The checks of a set are listed once each. -/
theorem nodup (set : CheckSet) : set.checks.Nodup := by
  change set.checks.Pairwise (fun first second => first ≠ second)
  apply set.ordered.imp
  intro first second before same
  exact Check.Before.irrefl second (same ▸ before)

/-- A set is not larger than a list that holds all its members. -/
theorem size_le {set : CheckSet} {checks : List Check} (within : ∀ check ∈ set, check ∈ checks) :
    set.size ≤ checks.length :=
  (set.nodup.subperm within).length_le

/-- Sets with the same members are equal. -/
theorem eq_of_members {first second : CheckSet} (left : ∀ check ∈ first, check ∈ second)
    (right : ∀ check ∈ second, check ∈ first) : first = second := by
  refine ext (List.Perm.eq_of_pairwise (fun check other _ _ before after => ?_) first.ordered
    second.ordered ((List.perm_ext_iff_of_nodup first.nodup second.nodup).2 fun check =>
      ⟨left check, right check⟩))
  exact absurd (before.trans after) (Check.Before.irrefl check)

/-- A part of a set that is as large as the set is the whole set. -/
theorem eq_of_size {first second : CheckSet} (within : ∀ check ∈ first, check ∈ second)
    (same : second.size ≤ first.size) : first = second := by
  have permuted : first.checks.Perm second.checks :=
    (first.nodup.subperm within).perm_of_length_le same
  exact eq_of_members within fun check member => permuted.mem_iff.2 member

end CheckSet

namespace TaintValue

/-- A clean value is in canonical form when it has no history. -/
def IsCanonical (value : TaintValue) : Prop := value.isClean = true → value = clean

theorem isClean_iff {value : TaintValue} : value.isClean = true ↔ value.state = .clean := by
  simp [isClean]

theorem isClean_clean : clean.isClean = true := rfl

theorem canonical_clean : clean.IsCanonical := fun _ => rfl

theorem canonical_of_not_clean {value : TaintValue} (dirty : value.isClean = false) :
    value.IsCanonical := fun isClean => by simp [dirty] at isClean

theorem canonical_canonicalForm (value : TaintValue) : value.canonicalForm.IsCanonical := by
  unfold canonicalForm
  split
  · exact canonical_clean
  · rename_i dirty
    exact fun isClean => absurd isClean dirty

/-- The clean value is below all others. -/
theorem leq_of_clean {first second : TaintValue} (isClean : first.isClean = true) :
    first.leq second = true := by
  simp [leq, isClean]

/-- Below a clean value there are only clean ones. -/
theorem clean_of_leq {first second : TaintValue} (below : first.leq second = true)
    (isClean : second.isClean = true) : first.isClean = true := by
  unfold leq at below
  split at below
  · assumption
  · simp_all

/-- The order of values that are not clean, component by component. -/
theorem leq_iff {first second : TaintValue} (dirty : first.isClean = false) :
    first.leq second = true ↔
      second.isClean = false ∧ first.state.height ≤ second.state.height ∧
        first.processing.atLeast second.processing = true ∧
        ∀ check ∈ second.checks, check ∈ first.checks := by
  unfold leq
  cases second.isClean <;> simp [dirty, and_assoc, CheckSet.subset_iff]

theorem leq_refl (value : TaintValue) : value.leq value = true := by
  cases dirty : value.isClean with
  | true => exact leq_of_clean dirty
  | false =>
      exact (leq_iff dirty).2 ⟨dirty, Nat.le_refl _, Processing.atLeast_refl _, fun _ => id⟩

theorem leq_trans {first second third : TaintValue} (left : first.leq second = true)
    (right : second.leq third = true) : first.leq third = true := by
  cases dirty : first.isClean with
  | true => exact leq_of_clean dirty
  | false =>
      obtain ⟨dirty', heights, processings, checks⟩ := (leq_iff dirty).1 left
      obtain ⟨dirty'', heights', processings', checks'⟩ := (leq_iff dirty').1 right
      exact (leq_iff dirty).2 ⟨dirty'', Nat.le_trans heights heights',
        Processing.atLeast_trans processings processings',
        fun check member => checks check (checks' check member)⟩

theorem leq_antisymm {first second : TaintValue} (canonical : first.IsCanonical)
    (canonical' : second.IsCanonical) (left : first.leq second = true)
    (right : second.leq first = true) : first = second := by
  cases dirty : first.isClean with
  | true => rw [canonical dirty, canonical' (clean_of_leq right dirty)]
  | false =>
      obtain ⟨dirty', heights, processings, checks⟩ := (leq_iff dirty).1 left
      obtain ⟨-, heights', processings', checks'⟩ := (leq_iff dirty').1 right
      have state := TaintState.eq_of_height (Nat.le_antisymm heights heights')
      have processing := Processing.atLeast_antisymm processings processings'
      have checks := CheckSet.eq_of_members checks' checks
      cases first
      cases second
      simp_all

/-- A join is clean when both values are. -/
theorem isClean_join {first second : TaintValue} :
    (first.join second).isClean = true ↔ first.isClean = true ∧ second.isClean = true := by
  cases dirty : first.isClean with
  | true => simp [join, dirty]
  | false =>
      cases dirty' : second.isClean with
      | true => simp [join, dirty, dirty']
      | false =>
          have state : first.state ≠ .clean := by simpa [isClean] using dirty
          simp only [join, dirty, dirty', isClean_iff, TaintState.join, Bool.false_eq_true,
            if_false, false_and, iff_false]
          split
          · simpa [isClean] using dirty'
          · exact state

theorem isClean_join_of_dirty {first : TaintValue} (dirty : first.isClean = false)
    (second : TaintValue) : (first.join second).isClean = false := by
  rw [Bool.eq_false_iff, Ne, isClean_join, dirty]
  exact fun both => Bool.false_ne_true both.1

/-- The join of values that are not clean, component by component. -/
theorem join_of_dirty {first second : TaintValue} (dirty : first.isClean = false)
    (dirty' : second.isClean = false) :
    first.join second = ⟨first.state.join second.state, first.processing.join second.processing,
      first.checks.inter second.checks⟩ := by
  simp [join, dirty, dirty']

theorem join_clean_left {first second : TaintValue} (isClean : first.isClean = true) :
    first.join second = second := by
  simp [join, isClean]

theorem join_clean_right {first second : TaintValue} (dirty : first.isClean = false)
    (isClean : second.isClean = true) : first.join second = first := by
  simp [join, dirty, isClean]

/-- A join with a canonical value on its right is canonical. -/
theorem canonical_join {first second : TaintValue} (canonical : second.IsCanonical) :
    (first.join second).IsCanonical := by
  intro isClean
  obtain ⟨left, right⟩ := isClean_join.1 isClean
  rw [join_clean_left left, canonical right]

/-- Each of two values is below their join. -/
theorem leq_join_left (first second : TaintValue) : first.leq (first.join second) = true := by
  cases dirty : first.isClean with
  | true => exact leq_of_clean dirty
  | false =>
      cases dirty' : second.isClean with
      | true => rw [join_clean_right dirty dirty']; exact leq_refl first
      | false =>
          have joined := isClean_join_of_dirty dirty second
          rw [leq_iff dirty, join_of_dirty dirty dirty'] at *
          refine ⟨joined, ?_, Processing.atLeast_join_left _ _, fun check member =>
            (CheckSet.mem_inter.1 member).1⟩
          rw [TaintState.height_join]
          exact Nat.le_max_left _ _

theorem leq_join_right (first second : TaintValue) : second.leq (first.join second) = true := by
  cases dirty : first.isClean with
  | true => rw [join_clean_left dirty]; exact leq_refl second
  | false =>
      cases dirty' : second.isClean with
      | true => exact leq_of_clean dirty'
      | false =>
          have joined := isClean_join_of_dirty dirty second
          rw [leq_iff dirty', join_of_dirty dirty dirty'] at *
          refine ⟨joined, ?_, Processing.atLeast_join_right _ _, fun check member =>
            (CheckSet.mem_inter.1 member).2⟩
          rw [TaintState.height_join]
          exact Nat.le_max_right _ _

/-- The join is below all that both values are below. -/
theorem join_leq {first second bound : TaintValue} (left : first.leq bound = true)
    (right : second.leq bound = true) : (first.join second).leq bound = true := by
  cases dirty : first.isClean with
  | true => rwa [join_clean_left dirty]
  | false =>
      cases dirty' : second.isClean with
      | true => rwa [join_clean_right dirty dirty']
      | false =>
          obtain ⟨boundDirty, heights, processings, checks⟩ := (leq_iff dirty).1 left
          obtain ⟨-, heights', processings', checks'⟩ := (leq_iff dirty').1 right
          have joined := isClean_join_of_dirty dirty second
          rw [leq_iff joined, join_of_dirty dirty dirty']
          refine ⟨boundDirty, ?_, Processing.join_atLeast processings processings',
            fun check member => CheckSet.mem_inter.2 ⟨checks check member, checks' check member⟩⟩
          rw [TaintState.height_join]
          exact Nat.max_le.2 ⟨heights, heights'⟩

/-- Badness without the arithmetic of words, which no sum here exceeds. -/
theorem badness_eq {value : TaintValue} {capacity : Nat} (fits : capacity + 8 < UInt32.size)
    (dirty : value.isClean = false) :
    value.badness capacity =
      value.state.height + value.processing.badness + (capacity - value.checks.size) := by
  have height := value.state.height_le_two
  have processing := value.processing.badness_le_six
  rw [badness, dirty, if_neg Bool.false_ne_true,
    Nat.mod_eq_of_lt (show capacity - value.checks.size < UInt32.size by omega)]
  exact Nat.mod_eq_of_lt (by omega)

/-- A value has no more badness than all parts of it together can have. -/
theorem badness_le {value : TaintValue} {capacity : Nat}
    (fits : capacity + 8 < UInt32.size) : value.badness capacity ≤ 8 + capacity := by
  cases dirty : value.isClean with
  | true => simp [badness, dirty]
  | false =>
      have height := value.state.height_le_two
      have processing := value.processing.badness_le_six
      rw [badness_eq fits dirty]
      omega

/-- A value that is not clean stands above the clean one. -/
theorem badness_pos {value : TaintValue} {capacity : Nat} (fits : capacity + 8 < UInt32.size)
    (dirty : value.isClean = false) : 0 < value.badness capacity := by
  have height : value.state.height ≠ 0 := by
    intro zero
    have state : value.state = .clean := TaintState.eq_of_height zero
    rw [isClean_iff.2 state] at dirty
    exact Bool.noConfusion dirty
  rw [badness_eq fits dirty]
  omega

/-- A value that climbs strictly gains in badness, provided its checks fit into the capacity. -/
theorem badness_lt {first second : TaintValue} {capacity : Nat}
    (fits : capacity + 8 < UInt32.size) (held : first.checks.size ≤ capacity)
    (canonical : first.IsCanonical) (canonical' : second.IsCanonical)
    (below : first.leq second = true) (different : first ≠ second) :
    first.badness capacity < second.badness capacity := by
  cases dirty : first.isClean with
  | true =>
      have dirty' : second.isClean = false := by
        rw [Bool.eq_false_iff]
        intro isClean
        exact different ((canonical dirty).trans (canonical' isClean).symm)
      rw [canonical dirty]
      exact badness_pos fits dirty'
  | false =>
      obtain ⟨dirty', heights, processings, checks⟩ := (leq_iff dirty).1 below
      have sizes : second.checks.size ≤ first.checks.size := CheckSet.size_le checks
      have badness := Processing.badness_le processings
      rw [badness_eq fits dirty, badness_eq fits dirty']
      -- Were no part to grow, all parts would agree.
      by_contra notLess
      have state := TaintState.eq_of_height (show first.state.height = second.state.height by omega)
      have processing := Processing.eq_of_badness processings (by omega)
      have sameChecks := CheckSet.eq_of_size checks (by omega)
      apply different
      cases first
      cases second
      simp_all

end TaintValue

end ForwardTaint
