/-!
Lists of names in which each name stands once, where it first occurred.
-/

namespace ForwardTaint.Names

/-- Adds a name at the end unless it is there. -/
def add (names : List String) (name : String) : List String :=
  if name ∈ names then names else names ++ [name]

/-- Adds names one after the other. -/
def addAll (names more : List String) : List String := more.foldl add names

/-- The names of a list, each where it first occurs. -/
def distinct (names : List String) : List String := addAll [] names

end ForwardTaint.Names
