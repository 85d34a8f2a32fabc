import ForwardTaint.Proofs.AliasTables
import Mathlib.Logic.Function.Iterate

/-!
Flags at the heads of loops.  A round takes from the table at the head what the body breaks; within
as many rounds as there are flags before the loop nothing is left to take, and the table is then the
greatest one that holds before the loop and that the body keeps.
-/

namespace ForwardTaint

namespace AliasTable

/-- What a round of a loop leaves of the table at its head. -/
def afterRound (entry : AliasTable) (body : List Stmt) (head : AliasTable) : AliasTable :=
  intersect entry (after body head)

theorem isMonotone_afterRound (entry : AliasTable) (body : List Stmt) :
    IsMonotone (afterRound entry body) :=
  fun within => Within.intersect (fun _ _ => id) (after_mono body within)

theorem afterRound_within (entry : AliasTable) (body : List Stmt) (head : AliasTable) :
    (afterRound entry body head).Within entry := intersect_within_left _ _

/-- Tables that only shrink settle after at most as many rounds as there are bindings, and further
rounds change nothing. -/
theorem exists_settled {next : AliasTable → AliasTable} (monotone : IsMonotone next)
    (table : AliasTable) (shrinks : (next table).Within table) :
    ∃ round ≤ table.size, ∀ rounds, round ≤ rounds →
      settle next rounds table = next^[round] table := by
  induction size : table.size using Nat.strongRecOn generalizing table with
  | ind bindings inductionHypothesis =>
      subst size
      by_cases settled : next table = table
      · refine ⟨0, Nat.zero_le _, fun rounds _ => ?_⟩
        cases rounds with
        | zero => rfl
        | succ rounds => exact if_pos settled
      · have smaller := shrinks.size_lt settled
        obtain ⟨round, atMost, reached⟩ :=
          inductionHypothesis _ smaller (next table) (monotone shrinks) rfl
        refine ⟨round + 1, Nat.lt_of_le_of_lt atMost smaller, fun rounds enough => ?_⟩
        cases rounds with
        | zero => exact absurd enough (Nat.not_succ_le_zero _)
        | succ rounds =>
            rw [settle, if_neg settled]
            exact reached rounds (Nat.le_of_succ_le_succ enough)

/-- The table at the head of a loop is the greatest part of the table before the loop that a round
leaves as it is.  It is reached after at most as many rounds as there are bindings before the loop,
so the one round more that is allowed finds nothing to change, and any further ones would not either.
What statements make of a table grows with the table. -/
theorem atLoopHead_isGreatest (entry : AliasTable) (body : List Stmt) :
    (atLoopHead entry (after body)).Within entry ∧
    intersect entry (after body (atLoopHead entry (after body))) = atLoopHead entry (after body) ∧
    (∀ table : AliasTable, table.Within entry → intersect entry (after body table) = table →
      table.Within (atLoopHead entry (after body))) ∧
    (∃ round ≤ entry.size,
      (afterRound entry body)^[round] entry = atLoopHead entry (after body) ∧
      ∀ rounds, round ≤ rounds →
        settle (afterRound entry body) rounds entry = atLoopHead entry (after body)) ∧
    ∀ (stmts : List Stmt) (first second : AliasTable), first.Within second →
      (after stmts first).Within (after stmts second) := by
  have monotone : IsMonotone (after body) := after_mono body
  refine ⟨atLoopHead_within_entry monotone entry, atLoopHead_fixed monotone entry, ?_, ?_, ?_⟩
  · intro table within fixed
    have kept := intersect_within_right entry (after body table)
    rw [fixed] at kept
    exact within_atLoopHead monotone within kept
  · obtain ⟨round, atMost, reached⟩ := exists_settled (isMonotone_afterRound entry body) entry
      (afterRound_within entry body entry)
    have atHead : atLoopHead entry (after body) = (afterRound entry body)^[round] entry :=
      reached (entry.size + 1) (Nat.le_succ_of_le atMost)
    exact ⟨round, atMost, atHead.symm, fun rounds enough => (reached rounds enough).trans atHead.symm⟩
  · intro stmts first second within
    exact after_mono stmts within

end AliasTable

namespace RenamedPath

def isPublic : Expr := .methodCall (.variable "page") "startsWith" [.literal "/public"]

/-- A loop that gives the path another value, of which a flag keeps the test. -/
def body : List Stmt := [.assign "path" (.variable "other") .zero]

/-- The flag of a page that the loop leaves alone. -/
def kept : AliasTable := StringMap.empty.insert "isPublic" isPublic

def entry : AliasTable :=
  kept.insert "hasEscape" (.methodCall (.variable "path") "contains" [.literal "%"])

/-- The flag of the page holds at the head, which has come to rest after at most two rounds. -/
theorem kept_within_head :
    kept.Within (AliasTable.atLoopHead entry (AliasTable.after body)) ∧
      ∃ round ≤ 2, (AliasTable.afterRound entry body)^[round] entry =
        AliasTable.atLoopHead entry (AliasTable.after body) := by
  obtain ⟨-, -, greatest, ⟨round, atMost, reached, -⟩, -⟩ :=
    AliasTable.atLoopHead_isGreatest entry body
  have unbound : kept.get? "hasEscape" = none := by decide
  have within : kept.Within entry := by
    intro flag predicate bound
    rw [entry, StringMap.get?_insert, if_neg]
    · exact bound
    · rintro rfl
      exact nomatch unbound.symm.trans bound
  exact ⟨greatest kept within (by decide), round, atMost, reached⟩

end RenamedPath

end ForwardTaint
