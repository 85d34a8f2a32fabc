import ForwardTaint.Text.Quoted

/-!
Validations that a value has passed, and sets of them.  A set lists its checks in strictly
increasing order, so two sets with the same members are equal.
-/

namespace ForwardTaint

/-- A validation that a value is known to have passed; the prefix of `denyPrefix` is compared in
small letters. -/
inductive Check where
  | exactMatch (value : String)
  | allowPrefix (start : String)
  | denyPrefix (start : String)
  | noTraversal
  | noEncoding
  deriving DecidableEq

namespace Check

/-- The place of the kind of check in the order of checks. -/
def rank : Check → Nat
  | .exactMatch _ => 0
  | .allowPrefix _ => 1
  | .denyPrefix _ => 2
  | .noTraversal => 3
  | .noEncoding => 4

/-- The text that a check compares with. -/
def operand : Check → String
  | .exactMatch value => value
  | .allowPrefix start | .denyPrefix start => start
  | .noTraversal | .noEncoding => ""

/-- Checks stand in the order of their kinds, then of their texts. -/
def Before (first second : Check) : Prop :=
  first.rank < second.rank ∨ first.rank = second.rank ∧ first.operand < second.operand

instance (first second : Check) : Decidable (Before first second) :=
  inferInstanceAs (Decidable (_ ∨ _))

theorem Before.trans {first second third : Check} (left : Before first second)
    (right : Before second third) : Before first third := by
  rcases left with ranks | ⟨ranks, operands⟩ <;> rcases right with ranks' | ⟨ranks', operands'⟩
  · exact .inl (Nat.lt_trans ranks ranks')
  · exact .inl (ranks' ▸ ranks)
  · exact .inl (ranks ▸ ranks')
  · exact .inr ⟨ranks.trans ranks', String.lt_trans operands operands'⟩

theorem Before.irrefl (check : Check) : ¬Before check check := fun before =>
  before.elim (Nat.lt_irrefl _) fun operands => String.lt_irrefl _ operands.2

theorem eq_of_not_before {first second : Check} (left : ¬Before first second)
    (right : ¬Before second first) : first = second := by
  have ranks : first.rank = second.rank := by
    by_cases below : first.rank < second.rank
    · exact absurd (.inl below) left
    · by_cases above : second.rank < first.rank
      · exact absurd (.inl above) right
      · omega
  have operands : first.operand = second.operand :=
    String.le_antisymm (String.not_lt.1 fun below => right (.inr ⟨ranks.symm, below⟩))
      (String.not_lt.1 fun below => left (.inr ⟨ranks, below⟩))
  cases first <;> cases second <;> simp_all [rank, operand]

def text : Check → String
  | .exactMatch value => "equals(" ++ Text.quoted value ++ ")"
  | .allowPrefix start => "startsWith(" ++ Text.quoted start ++ ")"
  | .denyPrefix start => "!startsWith(" ++ Text.quoted start ++ ")"
  | .noTraversal => "!contains(\"..\")"
  | .noEncoding => "!contains(\"%\")"

end Check

/-- A finite set of checks. -/
structure CheckSet where
  checks : List Check
  ordered : checks.Pairwise Check.Before

namespace CheckSet

@[ext] theorem ext {first second : CheckSet} (same : first.checks = second.checks) :
    first = second := by
  cases first
  cases second
  cases same
  rfl

instance : DecidableEq CheckSet := fun first second =>
  if same : first.checks = second.checks then .isTrue (ext same)
  else .isFalse fun equal => same (equal ▸ rfl)

/-- A list of checks with one more in its place. -/
def place (check : Check) : List Check → List Check
  | [] => [check]
  | first :: rest =>
      if check.Before first then check :: first :: rest
      else if first.Before check then first :: place check rest
      else first :: rest

theorem mem_place {check other : Check} {checks : List Check} :
    other ∈ place check checks ↔ other = check ∨ other ∈ checks := by
  induction checks with
  | nil => simp [place]
  | cons first rest inductionHypothesis =>
      rw [place]
      split
      · simp
      · split
        · simp only [List.mem_cons, inductionHypothesis]
          grind
        · rename_i notBefore notAfter
          have same := Check.eq_of_not_before notBefore notAfter
          simp [same]

theorem place_ordered {check : Check} {checks : List Check}
    (ordered : checks.Pairwise Check.Before) : (place check checks).Pairwise Check.Before := by
  induction checks with
  | nil => simp [place]
  | cons first rest inductionHypothesis =>
      obtain ⟨before, restOrdered⟩ := List.pairwise_cons.1 ordered
      rw [place]
      split
      · rename_i earlier
        refine List.pairwise_cons.2 ⟨fun other member => ?_, ordered⟩
        rcases List.mem_cons.1 member with rfl | later
        · exact earlier
        · exact earlier.trans (before other later)
      · split
        · rename_i later
          refine List.pairwise_cons.2 ⟨fun other member => ?_, inductionHypothesis restOrdered⟩
          rcases mem_place.1 member with rfl | old
          · exact later
          · exact before other old
        · exact ordered

/-- The set without members. -/
def empty : CheckSet := ⟨[], .nil⟩

instance : Membership Check CheckSet := ⟨fun set check => check ∈ set.checks⟩

instance (check : Check) (set : CheckSet) : Decidable (check ∈ set) :=
  inferInstanceAs (Decidable (check ∈ set.checks))

/-- The set with one more member. -/
def insert (set : CheckSet) (check : Check) : CheckSet :=
  ⟨place check set.checks, place_ordered set.ordered⟩

theorem mem_insert {set : CheckSet} {check other : Check} :
    other ∈ set.insert check ↔ other = check ∨ other ∈ set := mem_place

/-- The members that pass a test. -/
def filter (set : CheckSet) (keep : Check → Bool) : CheckSet :=
  ⟨set.checks.filter keep, List.Pairwise.sublist List.filter_sublist set.ordered⟩

/-- The members of both sets. -/
def inter (first second : CheckSet) : CheckSet := first.filter fun check => decide (check ∈ second)

/-- Whether every member of the first set is in the second. -/
def subset (first second : CheckSet) : Bool := first.checks.all fun check => decide (check ∈ second)

/-- The set of the checks of a list. -/
def ofList (checks : List Check) : CheckSet := checks.foldl insert empty

/-- The number of members. -/
def size (set : CheckSet) : Nat := set.checks.length

end CheckSet

end ForwardTaint
