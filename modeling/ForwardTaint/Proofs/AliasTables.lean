import ForwardTaint.Guard.Alias
import Mathlib.Data.List.Perm.Subperm

/-!
Tables of flags in the order of their bindings.  What statements make of a table grows with the
table, so the table at the head of a loop is the greatest one within the table before the loop that
the body keeps.
-/

namespace ForwardTaint

/-- No entry of a map stands twice. -/
theorem StringMap.nodup_entries {Value : Type} (map : StringMap Value) : map.entries.Nodup := by
  apply List.Pairwise.imp _ map.ordered
  intro entry other before same
  exact String.lt_irrefl entry.1 (same ▸ before)

namespace AliasTable

/-- The bindings of the first table are bindings of the second one. -/
def Within (first second : AliasTable) : Prop :=
  ∀ flag predicate, first.get? flag = some predicate → second.get? flag = some predicate

theorem Within.trans {first second third : AliasTable} (left : first.Within second)
    (right : second.Within third) : first.Within third :=
  fun flag predicate bound => right flag predicate (left flag predicate bound)

/-- Tables with the same bindings are the same. -/
theorem Within.antisymm {first second : AliasTable} (left : first.Within second)
    (right : second.Within first) : first = second := by
  have sameEntries (entry : String × Expr) : entry ∈ first.entries ↔ entry ∈ second.entries := by
    rw [← StringMap.get?_eq_some_iff, ← StringMap.get?_eq_some_iff]
    exact ⟨left entry.1 entry.2, right entry.1 entry.2⟩
  have permuted : first.entries.Perm second.entries :=
    (List.perm_ext_iff_of_nodup first.nodup_entries second.nodup_entries).2 sameEntries
  apply StringMap.ext
  apply List.Perm.eq_of_pairwise _ first.ordered second.ordered permuted
  intro entry other _ _ before after
  exact absurd (String.lt_trans before after) (String.lt_irrefl entry.1)

/-- A table that lacks a binding of another one, and has none besides its, is smaller. -/
theorem Within.size_lt {first second : AliasTable} (within : first.Within second)
    (different : first ≠ second) : first.size < second.size := by
  have subset : first.entries ⊆ second.entries := by
    intro entry member
    exact StringMap.get?_eq_some_iff.1
      (within entry.1 entry.2 (StringMap.get?_eq_some_iff.2 member))
  have subperm := List.subperm_of_subset first.nodup_entries subset
  apply Nat.lt_of_not_le
  intro atMost
  have permuted := subperm.perm_of_length_le atMost
  apply different
  apply within.antisymm
  intro flag predicate bound
  exact StringMap.get?_eq_some_iff.2
    (permuted.symm.subset (StringMap.get?_eq_some_iff.1 bound))

/-- What outlasts a write of a variable. -/
theorem get?_invalidate {table : AliasTable} {name flag : String} {predicate : Expr} :
    (invalidate table name).get? flag = some predicate ↔
      table.get? flag = some predicate ∧ flag ≠ name ∧ name ∉ predicate.variableNames := by
  simp only [invalidate, StringMap.get?_filter, Bool.and_eq_true, bne_iff_ne, Bool.not_eq_true',
    List.contains_eq_mem, decide_eq_false_iff_not]

/-- A flag that is given a test of other variables stands for it; besides, there are the flags that
outlast the write. -/
theorem get?_assign {table : AliasTable} {name flag : String} {value predicate : Expr} :
    (assign table name value).get? flag = some predicate ↔
      (flag = name ∧ predicate = value ∧ value.isPredicate = true ∧ name ∉ value.variableNames) ∨
        (invalidate table name).get? flag = some predicate := by
  have overwritten : ∀ other, (invalidate table name).get? name ≠ some other :=
    fun other bound => (get?_invalidate.1 bound).2.1 rfl
  rw [assign]
  split
  · rename_i isTest
    rw [Bool.and_eq_true, Bool.not_eq_true', List.contains_eq_mem, decide_eq_false_iff_not] at isTest
    rw [StringMap.get?_insert]
    split
    · rename_i same
      subst same
      rw [or_iff_left (overwritten predicate), Option.some.injEq, eq_comm]
      exact ⟨fun same => ⟨rfl, same, isTest⟩, fun bound => bound.2.1⟩
    · rename_i different
      rw [or_iff_right fun bound => different bound.1]
  · rename_i noTest
    rw [Bool.and_eq_true, Bool.not_eq_true', List.contains_eq_mem, decide_eq_false_iff_not] at noTest
    rw [or_iff_right fun bound => noTest bound.2.2]

theorem get?_intersect {first second : AliasTable} {flag : String} {predicate : Expr} :
    (intersect first second).get? flag = some predicate ↔
      first.get? flag = some predicate ∧ second.get? flag = some predicate := by
  rw [intersect, StringMap.get?_filter, beq_iff_eq]

theorem Within.invalidate {first second : AliasTable} (within : first.Within second)
    (name : String) : (first.invalidate name).Within (second.invalidate name) := by
  intro flag predicate bound
  rw [get?_invalidate] at bound ⊢
  exact ⟨within flag predicate bound.1, bound.2⟩

theorem Within.assign {first second : AliasTable} (within : first.Within second)
    (name : String) (value : Expr) : (first.assign name value).Within (second.assign name value) := by
  intro flag predicate bound
  rw [get?_assign] at bound ⊢
  exact bound.imp_right (within.invalidate name flag predicate)

theorem Within.intersect {first second first' second' : AliasTable} (left : first.Within first')
    (right : second.Within second') : (first.intersect second).Within (first'.intersect second') := by
  intro flag predicate bound
  rw [get?_intersect] at bound ⊢
  exact ⟨left flag predicate bound.1, right flag predicate bound.2⟩

theorem intersect_within_left (first second : AliasTable) : (first.intersect second).Within first :=
  fun _ _ bound => (get?_intersect.1 bound).1

theorem intersect_within_right (first second : AliasTable) :
    (first.intersect second).Within second :=
  fun _ _ bound => (get?_intersect.1 bound).2

/-- A table that is in two others is in what they share. -/
theorem Within.both {table first second : AliasTable} (left : table.Within first)
    (right : table.Within second) : table.Within (first.intersect second) :=
  fun flag predicate bound =>
    get?_intersect.2 ⟨left flag predicate bound, right flag predicate bound⟩

/-- What a larger table becomes is larger. -/
def IsMonotone (next : AliasTable → AliasTable) : Prop :=
  ∀ {first second : AliasTable}, first.Within second → (next first).Within (next second)

/-- Tables that only shrink settle within as many rounds as there are bindings. -/
theorem settle_fixed {next : AliasTable → AliasTable} (monotone : IsMonotone next) (rounds : Nat)
    (table : AliasTable) (shrinks : (next table).Within table) (enough : table.size < rounds) :
    next (settle next rounds table) = settle next rounds table := by
  induction rounds generalizing table with
  | zero => exact absurd enough (Nat.not_lt_zero _)
  | succ rounds inductionHypothesis =>
      rw [settle]
      split
      · rename_i settled
        exact settled
      · rename_i changed
        have smaller := shrinks.size_lt changed
        apply inductionHypothesis (next table) (monotone shrinks)
        omega

/-- A table that a step keeps stays within whatever tables it is within. -/
theorem within_settle {next : AliasTable → AliasTable} {kept : AliasTable}
    (keeps : ∀ {table : AliasTable}, kept.Within table → kept.Within (next table)) (rounds : Nat)
    (table : AliasTable) (within : kept.Within table) : kept.Within (settle next rounds table) := by
  induction rounds generalizing table with
  | zero => exact within
  | succ rounds inductionHypothesis =>
      rw [settle]
      split
      · exact within
      · exact inductionHypothesis (next table) (keeps within)

section LoopHead

variable {body : AliasTable → AliasTable} (monotone : IsMonotone body)
include monotone

/-- The table at the head of a loop is what the table before it shares with the end of the body. -/
theorem atLoopHead_fixed (entry : AliasTable) :
    intersect entry (body (atLoopHead entry body)) = atLoopHead entry body := by
  apply settle_fixed (fun within => Within.intersect (fun _ _ => id) (monotone within))
  · exact intersect_within_left entry _
  · exact Nat.lt_succ_self _

/-- What holds at the head of a loop holds before it. -/
theorem atLoopHead_within_entry (entry : AliasTable) : (atLoopHead entry body).Within entry := by
  have fixed := atLoopHead_fixed monotone entry
  rw [← fixed]
  exact intersect_within_left entry _

/-- What holds at the head of a loop holds at the end of its body. -/
theorem atLoopHead_within_end (entry : AliasTable) :
    (atLoopHead entry body).Within (body (atLoopHead entry body)) := by
  have within := intersect_within_right entry (body (atLoopHead entry body))
  rw [atLoopHead_fixed monotone entry] at within
  exact within

/-- Every table that holds before a loop and that its body keeps holds at the head. -/
theorem within_atLoopHead {kept entry : AliasTable} (before : kept.Within entry)
    (atEnd : kept.Within (body kept)) : kept.Within (atLoopHead entry body) :=
  within_settle (fun within => before.both (atEnd.trans (monotone within))) _ entry before

theorem isMonotone_atLoopHead : IsMonotone fun entry => atLoopHead entry body := by
  intro first second within
  exact within_atLoopHead monotone ((atLoopHead_within_entry monotone first).trans within)
    (atLoopHead_within_end monotone first)

end LoopHead

mutual

/-- What a statement makes of a table grows with the table. -/
theorem afterStmt_mono : (stmt : Stmt) → IsMonotone (afterStmt stmt)
  | .declare name _ (some value) _, _, _, within | .assign name value _, _, _, within =>
      within.assign name value
  | .declare name _ none _, _, _, within => within.invalidate name
  | .evaluate _ _, _, _, within | .return _ _, _, _, within => within
  | .branch _ accepted rejected _, _, _, within =>
      (after_mono accepted within).intersect (afterOption_mono rejected within)
  | .loop _ body _, _, _, within => isMonotone_atLoopHead (after_mono body) within
  | .block body, _, _, within => after_mono body within
  | .attempt body handlers final, _, _, within =>
      afterOption_mono final (afterHandlers_mono handlers
        (within.intersect (after_mono body within)) (after_mono body within))

theorem after_mono : (stmts : List Stmt) → IsMonotone (after stmts)
  | [], _, _, within => within
  | stmt :: rest, _, _, within => after_mono rest (afterStmt_mono stmt within)

theorem afterOption_mono : (stmts : Option (List Stmt)) → IsMonotone (afterOption stmts)
  | none, _, _, within => within
  | some stmts, _, _, within => after_mono stmts within

theorem afterHandlers_mono : (handlers : List Handler) →
    {entry entry' joined joined' : AliasTable} → entry.Within entry' → joined.Within joined' →
    (afterHandlers handlers entry joined).Within (afterHandlers handlers entry' joined')
  | [], _, _, _, _, _, withinJoined => withinJoined
  | ⟨none, _, body⟩ :: rest, _, _, _, _, within, withinJoined =>
      afterHandlers_mono rest within (withinJoined.intersect (after_mono body within))
  | ⟨some name, _, body⟩ :: rest, _, _, _, _, within, withinJoined =>
      afterHandlers_mono rest within
        (withinJoined.intersect (after_mono body (within.invalidate name)))

end

end AliasTable

end ForwardTaint
