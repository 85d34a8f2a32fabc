/-!
Finite maps from names to values.  The entries stand in strictly increasing order of their names,
so two maps with the same content are equal.
-/

namespace ForwardTaint

/-- A finite map from names. -/
structure StringMap (Value : Type) where
  entries : List (String × Value)
  ordered : entries.Pairwise fun first second => first.1 < second.1

namespace StringMap

variable {Value : Type}

/-- The entries with the value at `name` set. -/
def setEntry (name : String) (value : Value) : List (String × Value) → List (String × Value)
  | [] => [(name, value)]
  | entry :: rest =>
      if name < entry.1 then (name, value) :: entry :: rest
      else if entry.1 < name then entry :: setEntry name value rest
      else (name, value) :: rest

theorem mem_setEntry {name : String} {value : Value} {entries : List (String × Value)}
    {entry : String × Value} (member : entry ∈ setEntry name value entries) :
    entry = (name, value) ∨ entry ∈ entries := by
  induction entries with
  | nil => simpa [setEntry] using member
  | cons first rest inductionHypothesis =>
      rw [setEntry] at member
      split at member
      · simpa using member
      · split at member
        · rcases List.mem_cons.1 member with rfl | later
          · simp
          · rcases inductionHypothesis later with same | old
            · exact .inl same
            · exact .inr (List.mem_cons_of_mem _ old)
        · rcases List.mem_cons.1 member with same | later
          · exact .inl same
          · exact .inr (List.mem_cons_of_mem _ later)

theorem setEntry_ordered {name : String} {value : Value} {entries : List (String × Value)}
    (ordered : entries.Pairwise fun first second => first.1 < second.1) :
    (setEntry name value entries).Pairwise fun first second => first.1 < second.1 := by
  induction entries with
  | nil => simp [setEntry]
  | cons entry rest inductionHypothesis =>
      obtain ⟨below, restOrdered⟩ := List.pairwise_cons.1 ordered
      rw [setEntry]
      split
      · rename_i before
        refine List.pairwise_cons.2 ⟨fun other member => ?_, ordered⟩
        rcases List.mem_cons.1 member with rfl | later
        · exact before
        · exact String.lt_trans before (below other later)
      · rename_i notBefore
        split
        · rename_i after
          refine List.pairwise_cons.2 ⟨fun other member => ?_, inductionHypothesis restOrdered⟩
          rcases mem_setEntry member with rfl | old
          · exact after
          · exact below other old
        · rename_i notAfter
          have same : name = entry.1 :=
            String.le_antisymm (String.not_lt.1 notAfter) (String.not_lt.1 notBefore)
          exact List.pairwise_cons.2 ⟨fun other member => same ▸ below other member, restOrdered⟩

/-- The map without entries. -/
def empty : StringMap Value := ⟨[], .nil⟩

instance : Inhabited (StringMap Value) := ⟨empty⟩

/-- The value at a name. -/
def get? (map : StringMap Value) (name : String) : Option Value := map.entries.lookup name

theorem lookup_entry (name key : String) (value : Value) (rest : List (String × Value)) :
    ((key, value) :: rest).lookup name = if name = key then some value else rest.lookup name := by
  by_cases same : name = key
  · simp [same]
  · rw [List.lookup_cons, beq_false_of_ne same, if_neg same]

theorem lookup_setEntry (name other : String) (value : Value) (entries : List (String × Value)) :
    (setEntry name value entries).lookup other =
      if other = name then some value else entries.lookup other := by
  induction entries with
  | nil => rw [setEntry, lookup_entry]
  | cons entry rest inductionHypothesis =>
      obtain ⟨key, old⟩ := entry
      rw [setEntry]
      split
      · rw [lookup_entry]
      · rename_i notBefore
        split
        · rename_i after
          have different : key ≠ name := fun equal => String.lt_irrefl name (equal ▸ after)
          rw [lookup_entry, lookup_entry, inductionHypothesis]
          grind
        · rename_i notAfter
          have equal : name = key :=
            String.le_antisymm (String.not_lt.1 notAfter) (String.not_lt.1 notBefore)
          subst equal
          rw [lookup_entry, lookup_entry]
          grind

/-- Whether a name has a value. -/
def contains (map : StringMap Value) (name : String) : Bool := (map.get? name).isSome

/-- The map with the value at `name` set. -/
def insert (map : StringMap Value) (name : String) (value : Value) : StringMap Value :=
  ⟨setEntry name value map.entries, setEntry_ordered map.ordered⟩

theorem get?_insert (map : StringMap Value) (name other : String) (value : Value) :
    (map.insert name value).get? other = if other = name then some value else map.get? other :=
  lookup_setEntry name other value map.entries

/-- The entries that pass a test. -/
def filter (map : StringMap Value) (keep : String → Value → Bool) : StringMap Value :=
  ⟨map.entries.filter fun entry => keep entry.1 entry.2,
    List.Pairwise.sublist List.filter_sublist map.ordered⟩

/-- The map without a value at `name`. -/
def erase (map : StringMap Value) (name : String) : StringMap Value :=
  map.filter fun key _ => key != name

theorem lookup_filter_ne (name other : String) (entries : List (String × Value)) :
    (entries.filter fun entry => entry.1 != name).lookup other =
      if other = name then none else entries.lookup other := by
  induction entries with
  | nil => simp
  | cons entry rest inductionHypothesis =>
      obtain ⟨key, old⟩ := entry
      rw [List.filter_cons, lookup_entry]
      split
      · rw [lookup_entry, inductionHypothesis]
        grind
      · rw [inductionHypothesis]
        grind

theorem get?_erase (map : StringMap Value) (name other : String) :
    (map.erase name).get? other = if other = name then none else map.get? other :=
  lookup_filter_ne name other map.entries

/-- The entries of a map are its names with their values. -/
theorem get?_eq_some_iff {map : StringMap Value} {name : String} {value : Value} :
    map.get? name = some value ↔ (name, value) ∈ map.entries := by
  obtain ⟨entries, ordered⟩ := map
  unfold get?
  induction entries with
  | nil => simp
  | cons entry rest inductionHypothesis =>
      obtain ⟨key, first⟩ := entry
      obtain ⟨below, restOrdered⟩ := List.pairwise_cons.1 ordered
      have later := inductionHypothesis restOrdered
      rw [lookup_entry, List.mem_cons, Prod.mk.injEq]
      by_cases same : name = key
      · subst same
        have notLater : (name, value) ∉ rest := fun member =>
          String.lt_irrefl name (below (name, value) member)
        simp [notLater, eq_comm]
      · rw [if_neg same, later]
        simp [same]

theorem get?_filter {map : StringMap Value} {keep : String → Value → Bool} {name : String}
    {value : Value} :
    (map.filter keep).get? name = some value ↔
      map.get? name = some value ∧ keep name value = true := by
  rw [get?_eq_some_iff, get?_eq_some_iff, filter, List.mem_filter]

/-- The names that have a value, in increasing order. -/
def names (map : StringMap Value) : List String := map.entries.map Prod.fst

/-- The names of two lists in increasing order, each name once. -/
def mergeNames : List String → List String → List String
  | [], second => second
  | first, [] => first
  | name :: first, other :: second =>
      if name < other then name :: mergeNames first (other :: second)
      else if other < name then other :: mergeNames (name :: first) second
      else name :: mergeNames first second
termination_by first second => first.length + second.length

theorem mem_mergeNames {name : String} {first second : List String} :
    name ∈ mergeNames first second ↔ name ∈ first ∨ name ∈ second := by
  fun_induction mergeNames first second with
  | case1 => simp
  | case2 => simp
  | case3 => simp_all [or_assoc]
  | case4 => simp_all [or_left_comm]
  | case5 first rest second rest' notBefore notAfter inductionHypothesis =>
      have equal : first = second :=
        String.le_antisymm (String.not_lt.1 notAfter) (String.not_lt.1 notBefore)
      grind

/-- The names that have a value in some map, in increasing order. -/
def allNames (maps : List (StringMap Value)) : List String :=
  maps.foldl (fun names map => mergeNames names map.names) []

theorem mem_names {map : StringMap Value} {name : String} :
    name ∈ map.names ↔ ∃ value, map.get? name = some value := by
  simp only [names, List.mem_map, get?_eq_some_iff]
  constructor
  · rintro ⟨⟨key, value⟩, member, rfl⟩
    exact ⟨value, member⟩
  · rintro ⟨value, member⟩
    exact ⟨(name, value), member, rfl⟩

theorem mem_allNames {maps : List (StringMap Value)} {name : String} :
    name ∈ allNames maps ↔ ∃ map ∈ maps, ∃ value, map.get? name = some value := by
  have folded : ∀ names : List String,
      name ∈ maps.foldl (fun names map => mergeNames names map.names) names ↔
        name ∈ names ∨ ∃ map ∈ maps, ∃ value, map.get? name = some value := by
    induction maps with
    | nil => simp
    | cons map maps inductionHypothesis =>
        intro names
        rw [List.foldl_cons, inductionHypothesis, mem_mergeNames, mem_names, or_assoc]
        simp only [List.mem_cons, exists_eq_or_imp]
  rw [allNames, folded]
  simp

/-- The map of a list of entries, a later value taking the place of an earlier one. -/
def ofList (entries : List (String × Value)) : StringMap Value :=
  entries.foldl (fun map entry => map.insert entry.1 entry.2) empty

/-- The number of entries. -/
def size (map : StringMap Value) : Nat := map.entries.length

@[ext] theorem ext {first second : StringMap Value} (same : first.entries = second.entries) :
    first = second := by
  cases first
  cases second
  cases same
  rfl

instance [DecidableEq Value] : DecidableEq (StringMap Value) := fun first second =>
  if same : first.entries = second.entries then .isTrue (ext same)
  else .isFalse fun equal => same (equal ▸ rfl)

end StringMap

end ForwardTaint
