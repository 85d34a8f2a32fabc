/-!
Lists of numbers in strictly increasing order, as finite sets.
-/

namespace ForwardTaint.Ascending

/-- Puts a number into its place unless it is there. -/
def insert (number : Nat) : List Nat → List Nat
  | [] => [number]
  | first :: rest =>
      if number < first then number :: first :: rest
      else if number = first then first :: rest
      else first :: insert number rest

/-- The numbers of a list in increasing order, each once. -/
def ofList (numbers : List Nat) : List Nat := numbers.foldl (fun set number => insert number set) []

/-- The numbers of either set. -/
def union (first second : List Nat) : List Nat :=
  second.foldl (fun set number => insert number set) first

theorem mem_insert {number other : Nat} {set : List Nat} :
    other ∈ insert number set ↔ other = number ∨ other ∈ set := by
  induction set with
  | nil => simp [insert]
  | cons first rest inductionHypothesis =>
      rw [insert]
      split
      · simp
      · split
        · rename_i same
          simp [same]
        · simp only [List.mem_cons, inductionHypothesis]
          grind

theorem mem_union {first second : List Nat} {number : Nat} :
    number ∈ union first second ↔ number ∈ first ∨ number ∈ second := by
  induction second generalizing first with
  | nil => simp [union]
  | cons head rest inductionHypothesis =>
      rw [union, List.foldl_cons, ← union, inductionHypothesis, mem_insert, List.mem_cons]
      grind

theorem mem_ofList {numbers : List Nat} {number : Nat} :
    number ∈ ofList numbers ↔ number ∈ numbers := by
  have members : number ∈ union [] numbers ↔ number ∈ [] ∨ number ∈ numbers := mem_union
  simpa [union, ofList] using members

end ForwardTaint.Ascending
