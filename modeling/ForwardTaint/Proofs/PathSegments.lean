import ForwardTaint.Text.DotSegments
import Mathlib

/-!
What is left of a path when its dot segments are resolved.  The segments that stay are segments of
the path, so a part without a slash occurs afterwards only where it occurred before; and a path that
does not climb keeps every beginning that has no dot segment itself.
-/

namespace ForwardTaint.Text

/-- The segments are those of the library's splitting at an element. -/
theorem segmentsOf_eq_splitOn (separator : Char) (text : List Char) :
    segmentsOf separator text = text.splitOn separator := by
  induction text with
  | nil => rfl
  | cons char rest inductionHypothesis =>
      rw [segmentsOf, inductionHypothesis, List.splitOn_cons_eq_if_modifyHead]
      by_cases isSeparator : char = separator
      · simp [isSeparator]
      · cases split : rest.splitOn separator with
        | nil => exact absurd split (List.splitOn_ne_nil _ _)
        | cons segment segments => simp [isSeparator]

theorem segmentsOf_ne_nil (separator : Char) (text : List Char) : segmentsOf separator text ≠ [] := by
  rw [segmentsOf_eq_splitOn]
  exact List.splitOn_ne_nil _ _

/-- The segments with separators between them are the text. -/
theorem intercalate_segmentsOf (separator : Char) (text : List Char) :
    [separator].intercalate (segmentsOf separator text) = text := by
  rw [segmentsOf_eq_splitOn]
  exact List.intercalate_splitOn _

/-- A text with a separator in it has the segments of the two sides. -/
theorem segmentsOf_append (separator : Char) (first second : List Char) :
    segmentsOf separator (first ++ separator :: second) =
      segmentsOf separator first ++ segmentsOf separator second := by
  simp only [segmentsOf_eq_splitOn]
  exact List.splitOn_append_cons_self _ _

theorem segmentsOf_cons_separator (separator : Char) (text : List Char) :
    segmentsOf separator (separator :: text) = [] :: segmentsOf separator text :=
  segmentsOf_append separator [] text

/-- Segments without separators are found again. -/
theorem segmentsOf_intercalate {separator : Char} {segments : List (List Char)}
    (whole : ∀ segment ∈ segments, separator ∉ segment) (some : segments ≠ []) :
    segmentsOf separator ([separator].intercalate segments) = segments := by
  rw [segmentsOf_eq_splitOn]
  exact List.splitOn_intercalate _ whole some

theorem not_mem_of_mem_segmentsOf {separator : Char} {text segment : List Char}
    (member : segment ∈ segmentsOf separator text) : separator ∉ segment := by
  induction text generalizing segment with
  | nil =>
      rw [segmentsOf, List.mem_singleton] at member
      rw [member]
      exact List.not_mem_nil
  | cons char rest inductionHypothesis =>
      by_cases isSeparator : char = separator
      · rw [isSeparator, segmentsOf_cons_separator, List.mem_cons] at member
        rcases member with rfl | later
        · exact List.not_mem_nil
        · exact inductionHypothesis later
      · rw [segmentsOf, if_neg isSeparator] at member
        cases split : segmentsOf separator rest with
        | nil => exact absurd split (segmentsOf_ne_nil _ _)
        | cons first others =>
            rw [split] at member inductionHypothesis
            rcases List.mem_cons.1 member with rfl | later
            · refine List.not_mem_cons_of_ne_of_not_mem (Ne.symm isSeparator) ?_
              exact inductionHypothesis List.mem_cons_self
            · exact inductionHypothesis (List.mem_cons_of_mem _ later)

/-- A part without the separator lies on one side of it. -/
theorem infix_of_infix_append {separator : Char} {part first second : List Char}
    (absent : separator ∉ part) (within : part <:+: first ++ separator :: second) :
    part <:+: first ∨ part <:+: second := by
  rcases List.infix_append_iff.1 within with left | right | ⟨front, back, rfl, ends, begins⟩
  · exact .inl left
  · rcases List.infix_cons_iff.1 right with begins | later
    · cases part with
      | nil => exact .inl (List.nil_infix)
      | cons char part =>
          obtain ⟨rfl, -⟩ := List.cons_prefix_cons.1 begins
          exact absurd List.mem_cons_self absent
    · exact .inr later
  · cases back with
    | nil => exact .inl (by simpa using ends.isInfix)
    | cons char back =>
        obtain ⟨rfl, -⟩ := List.cons_prefix_cons.1 begins
        exact absurd (List.mem_append_right _ List.mem_cons_self) absent

/-- A part without the separator lies in one segment. -/
theorem exists_infix_of_infix_intercalate {separator : Char} {part : List Char}
    {segments : List (List Char)} (absent : separator ∉ part) (some : part ≠ [])
    (within : part <:+: [separator].intercalate segments) :
    ∃ segment ∈ segments, part <:+: segment := by
  induction segments with
  | nil => exact absurd (List.infix_nil.1 within) some
  | cons segment segments inductionHypothesis =>
      cases segments with
      | nil =>
          rw [List.intercalate_singleton] at within
          exact ⟨segment, List.mem_cons_self, within⟩
      | cons next segments =>
          rw [List.intercalate_cons_cons, List.append_assoc, List.singleton_append] at within
          rcases infix_of_infix_append absent within with here | later
          · exact ⟨segment, List.mem_cons_self, here⟩
          · obtain ⟨other, member, inside⟩ := inductionHypothesis later
            exact ⟨other, List.mem_cons_of_mem _ member, inside⟩

theorem infix_of_mem_intercalate {separator segment : List Char} {segments : List (List Char)}
    (member : segment ∈ segments) : segment <:+: separator.intercalate segments := by
  obtain ⟨before, after, rfl⟩ := List.append_of_mem member
  induction before with
  | nil =>
      cases after with
      | nil => rw [List.nil_append, List.intercalate_singleton]
      | cons next after =>
          rw [List.nil_append, List.intercalate_cons_cons, List.append_assoc]
          exact (List.prefix_append _ _).isInfix
  | cons first before inductionHypothesis =>
      rw [List.cons_append, List.intercalate_cons_of_ne_nil (by simp)]
      exact (inductionHypothesis (by simp)).trans (List.suffix_append _ _).isInfix

/-- Segments are parts of the text. -/
theorem infix_of_mem_segmentsOf {separator : Char} {text segment : List Char}
    (member : segment ∈ segmentsOf separator text) : segment <:+: text := by
  have inside : segment <:+: [separator].intercalate (segmentsOf separator text) :=
    infix_of_mem_intercalate member
  rwa [intercalate_segmentsOf] at inside

/-- The segments that stay are segments of the path, and no dot segments. -/
theorem mem_resolveSegments {kept segments : List (List Char)} {resolved : Bool}
    {segment : List Char} (member : segment ∈ (resolveSegments kept resolved segments).1) :
    segment ∈ kept ∨ segment ∈ segments ∧ segment ≠ ['.'] ∧ segment ≠ ['.', '.'] := by
  induction segments generalizing kept resolved with
  | nil => exact .inl member
  | cons first rest inductionHypothesis =>
      rw [resolveSegments] at member
      have later : segment ∈ rest ∧ segment ≠ ['.'] ∧ segment ≠ ['.', '.'] →
          segment ∈ first :: rest ∧ segment ≠ ['.'] ∧ segment ≠ ['.', '.'] :=
        And.imp_left (List.mem_cons_of_mem _)
      split at member
      · exact (inductionHypothesis member).imp id later
      · split at member
        · exact (inductionHypothesis member).imp List.mem_of_mem_tail later
        · rename_i notDot notDots
          rcases inductionHypothesis member with here | there
          · rcases List.mem_cons.1 here with rfl | old
            · exact .inr ⟨List.mem_cons_self, notDot, notDots⟩
            · exact .inl old
          · exact .inr (later there)

/-- A path with its dot segments resolved is a slash if it had one in front, the segments that stay,
and possibly a slash at the end. -/
theorem exists_removeDotSegments_eq (path : List Char) :
    ∃ (kept : List (List Char)) (front back : List Char),
      removeDotSegments path = front ++ ['/'].intercalate kept ++ back ∧
      (front = [] ∨ front = ['/']) ∧ (back = [] ∨ back = ['/']) ∧
      ∀ segment ∈ kept, segment ∈ segmentsOf '/' path ∧ segment ≠ ['.'] ∧ segment ≠ ['.', '.'] := by
  let absolute := path.head? == some '/'
  let segments := if absolute then (segmentsOf '/' path).tail else segmentsOf '/' path
  have within : ∀ segment ∈ segments, segment ∈ segmentsOf '/' path := by
    intro segment member
    simp only [segments] at member
    split at member
    · exact List.mem_of_mem_tail member
    · exact member
  refine ⟨(resolveSegments [] false segments).1.reverse, _, _, rfl, ?_, ?_, ?_⟩
  · exact (ite_eq_or_eq _ _ _).symm
  · exact (ite_eq_or_eq _ _ _).symm
  · intro segment member
    have stays := mem_resolveSegments (List.mem_reverse.1 member)
    exact (stays.resolve_left List.not_mem_nil).imp_left (within segment)

/-- A part without a slash occurs in a resolved path only if it occurs in the path. -/
theorem infix_of_infix_removeDotSegments {part path : List Char} (absent : '/' ∉ part)
    (some : part ≠ []) (within : part <:+: removeDotSegments path) : part <:+: path := by
  obtain ⟨kept, front, back, resolved, isFront, isBack, segments⟩ :=
    exists_removeDotSegments_eq path
  have behind : part <:+: front ++ ['/'].intercalate kept := by
    rw [resolved] at within
    rcases isBack with rfl | rfl
    · rwa [List.append_nil] at within
    · exact (infix_of_infix_append absent within).resolve_right fun empty =>
        some (List.infix_nil.1 empty)
  have between : part <:+: ['/'].intercalate kept := by
    rcases isFront with rfl | rfl
    · exact behind
    · have inside : part <:+: [] ∨ part <:+: ['/'].intercalate kept :=
        infix_of_infix_append absent behind
      exact inside.resolve_left fun empty => some (List.infix_nil.1 empty)
  obtain ⟨segment, member, inside⟩ := exists_infix_of_infix_intercalate absent some between
  exact inside.trans (infix_of_mem_segmentsOf (segments segment member).1)

/-- A resolved path has no dot segments. -/
theorem not_dots_of_mem_removeDotSegments {path segment : List Char}
    (member : segment ∈ segmentsOf '/' (removeDotSegments path)) :
    segment ≠ ['.'] ∧ segment ≠ ['.', '.'] := by
  obtain ⟨kept, front, back, resolved, isFront, isBack, segments⟩ :=
    exists_removeDotSegments_eq path
  have last : segmentsOf '/' [] = [[]] := rfl
  have stays : segment = [] ∨ segment ∈ segmentsOf '/' (['/'].intercalate kept) := by
    rw [resolved] at member
    rcases isFront with rfl | rfl <;> rcases isBack with rfl | rfl <;>
      simp only [List.nil_append, List.append_nil, segmentsOf_append, segmentsOf_cons_separator,
        List.cons_append, List.mem_cons, List.mem_append, last,
        List.not_mem_nil, or_false] at member <;> tauto
  have inKept : segment = [] ∨ segment ∈ kept := by
    rcases stays with empty | inside
    · exact .inl empty
    · cases kept with
      | nil => exact .inl (by simpa [last] using inside)
      | cons first kept =>
          rw [segmentsOf_intercalate (fun other among =>
            not_mem_of_mem_segmentsOf (segments other among).1) (List.cons_ne_nil _ _)] at inside
          exact .inr inside
  rcases inKept with rfl | among
  · exact ⟨nofun, nofun⟩
  · exact (segments segment among).2

/-- The text of segments without those that are `.`; one at the end leaves its slash. -/
def joinUndotted : List (List Char) → List Char
  | [] => []
  | [segment] => if segment = ['.'] then [] else segment
  | segment :: next :: rest =>
      if segment = ['.'] then joinUndotted (next :: rest)
      else segment ++ '/' :: joinUndotted (next :: rest)

theorem joinUndotted_dot (rest : List (List Char)) :
    joinUndotted (['.'] :: rest) = joinUndotted rest := by
  cases rest <;> simp [joinUndotted]

theorem joinUndotted_cons {segment : List Char} (notDot : segment ≠ ['.']) {rest : List (List Char)}
    (more : rest ≠ []) : joinUndotted (segment :: rest) = segment ++ '/' :: joinUndotted rest := by
  cases rest with
  | nil => exact absurd rfl more
  | cons next rest => rw [joinUndotted, if_neg notDot]

theorem prefix_joinUndotted_cons {segment : List Char} (notDot : segment ≠ ['.'])
    (rest : List (List Char)) : segment <+: joinUndotted (segment :: rest) := by
  cases rest with
  | nil => simp [joinUndotted, notDot]
  | cons next rest =>
      rw [joinUndotted_cons notDot (List.cons_ne_nil _ _)]
      exact List.prefix_append _ _

theorem intercalate_concat (separator : Char) (segments : List (List Char)) (last : List Char) :
    [separator].intercalate (segments ++ [last]) =
      segments.flatMap (· ++ [separator]) ++ last := by
  induction segments with
  | nil => exact List.intercalate_singleton
  | cons segment segments inductionHypothesis =>
      rw [List.cons_append, List.intercalate_cons_of_ne_nil (by simp), inductionHypothesis,
        List.flatMap_cons, List.append_assoc, List.append_assoc, List.append_assoc]

/-- Segments none of which climbs are joined as they are, without those that are `.`. -/
theorem resolveSegments_join {segments : List (List Char)} (level : ['.', '.'] ∉ segments)
    (some : segments ≠ []) (kept : List (List Char)) (resolved : Bool) :
    ['/'].intercalate (resolveSegments kept resolved segments).1.reverse ++
      (if (resolveSegments kept resolved segments).2 &&
        !(resolveSegments kept resolved segments).1.isEmpty then ['/'] else []) =
    kept.reverse.flatMap (· ++ ['/']) ++ joinUndotted segments := by
  induction segments generalizing kept resolved with
  | nil => exact absurd rfl some
  | cons segment rest inductionHypothesis =>
      have notClimbing : segment ≠ ['.', '.'] := fun same => level (same ▸ List.mem_cons_self)
      have levelRest : ['.', '.'] ∉ rest := mt (List.mem_cons_of_mem _) level
      rw [resolveSegments, if_neg notClimbing]
      by_cases isDot : segment = ['.']
      · rw [if_pos isDot, isDot, joinUndotted_dot]
        cases rest with
        | nil =>
            cases kept with
            | nil => rfl
            | cons last kept =>
                rw [resolveSegments, List.reverse_cons, intercalate_concat]
                simp [joinUndotted]
        | cons next rest => exact inductionHypothesis levelRest (List.cons_ne_nil _ _) _ _
      · rw [if_neg isDot]
        cases rest with
        | nil =>
            rw [resolveSegments, List.reverse_cons, intercalate_concat]
            simp [joinUndotted, isDot]
        | cons next rest =>
            rw [inductionHypothesis levelRest (List.cons_ne_nil _ _),
              joinUndotted_cons isDot (List.cons_ne_nil _ _)]
            simp

/-- A path that does not climb is joined again from its segments without those that are `.`. -/
theorem removeDotSegments_absolute {path : List Char} (level : ['.', '.'] ∉ segmentsOf '/' path) :
    removeDotSegments ('/' :: path) = '/' :: joinUndotted (segmentsOf '/' path) := by
  have joined := resolveSegments_join level (segmentsOf_ne_nil '/' path) [] false
  refine Eq.trans ?_ (congrArg ('/' :: ·) joined)
  simp [removeDotSegments, segmentsOf_cons_separator]

theorem removeDotSegments_relative {path : List Char} (relative : path.head? ≠ some '/')
    (level : ['.', '.'] ∉ segmentsOf '/' path) :
    removeDotSegments path = joinUndotted (segmentsOf '/' path) := by
  have joined := resolveSegments_join level (segmentsOf_ne_nil '/' path) [] false
  refine Eq.trans ?_ joined
  simp [removeDotSegments, relative]

/-- Texts without a separator that stand before it in texts with one beginning are the same. -/
theorem prefix_segment_cons {separator : Char} {first second start text : List Char}
    (whole : separator ∉ first) (whole' : separator ∉ second)
    (begins : first ++ separator :: start <+: second ++ separator :: text) :
    first = second ∧ start <+: text := by
  induction first generalizing second with
  | nil =>
      cases second with
      | nil => exact ⟨rfl, (List.cons_prefix_cons.1 begins).2⟩
      | cons char second =>
          exact absurd ((List.cons_prefix_cons.1 begins).1 ▸ List.mem_cons_self) whole'
  | cons char first inductionHypothesis =>
      cases second with
      | nil => exact absurd ((List.cons_prefix_cons.1 begins).1 ▸ List.mem_cons_self) whole
      | cons other second =>
          obtain ⟨rfl, later⟩ := List.cons_prefix_cons.1 begins
          obtain ⟨rfl, same⟩ := inductionHypothesis (mt (List.mem_cons_of_mem _) whole)
            (mt (List.mem_cons_of_mem _) whole') later
          exact ⟨rfl, same⟩

/-- A beginning without separators lies in the first segment. -/
theorem prefix_of_prefix_intercalate {separator : Char} {start segment : List Char}
    {segments : List (List Char)} (whole : separator ∉ start)
    (begins : start <+: [separator].intercalate (segment :: segments)) : start <+: segment := by
  cases segments with
  | nil => rwa [List.intercalate_singleton] at begins
  | cons next segments =>
      rw [List.intercalate_cons_cons, List.append_assoc, List.singleton_append] at begins
      rcases List.prefix_or_prefix_of_prefix begins (List.prefix_append segment _) with
        inside | ⟨rest, rfl⟩
      · exact inside
      · cases rest with
        | nil => rw [List.append_nil]
        | cons char rest =>
            rw [List.prefix_append_right_inj, List.cons_prefix_cons] at begins
            exact absurd (List.mem_append_right _ (begins.1 ▸ List.mem_cons_self)) whole

/-- A segment at the beginning stays when segments that are `.` are left out. -/
theorem prefix_joinUndotted_segment {first : List Char} {segments : List (List Char)}
    (notDot : first ≠ ['.']) (whole : '/' ∉ first) (begins : first <+: ['/'].intercalate segments) :
    first <+: joinUndotted segments := by
  cases segments with
  | nil => exact begins
  | cons segment segments =>
      have inside := prefix_of_prefix_intercalate whole begins
      by_cases isDot : segment = ['.']
      · rw [isDot] at inside
        rcases List.prefix_cons_iff.1 inside with rfl | ⟨rest, rfl, nothing⟩
        · exact List.nil_prefix
        · exact absurd (by rw [List.prefix_nil.1 nothing]) notDot
      · exact inside.trans (prefix_joinUndotted_cons isDot segments)

/-- A beginning without dot segments stays when segments that are `.` are left out. -/
theorem prefix_joinUndotted {start segments : List (List Char)} (undotted : ['.'] ∉ start)
    (wholeStart : ∀ segment ∈ start, '/' ∉ segment) (whole : ∀ segment ∈ segments, '/' ∉ segment)
    (begins : ['/'].intercalate start <+: ['/'].intercalate segments) :
    ['/'].intercalate start <+: joinUndotted segments := by
  induction start generalizing segments with
  | nil => exact List.nil_prefix
  | cons first start inductionHypothesis =>
      have notDot : first ≠ ['.'] := fun same => undotted (same ▸ List.mem_cons_self)
      have wholeFirst := wholeStart first List.mem_cons_self
      cases start with
      | nil =>
          rw [List.intercalate_singleton] at begins ⊢
          exact prefix_joinUndotted_segment notDot wholeFirst begins
      | cons next start =>
          rw [List.intercalate_cons_cons, List.append_assoc, List.singleton_append] at begins ⊢
          -- There is a slash in the beginning, so at least two segments in the path.
          rcases segments with _ | ⟨segment, _ | ⟨other, segments⟩⟩
          · exact absurd (List.prefix_nil.1 begins) (by simp)
          · rw [List.intercalate_singleton] at begins
            exact absurd (begins.subset (by simp)) (whole segment List.mem_cons_self)
          · rw [List.intercalate_cons_cons, List.append_assoc, List.singleton_append] at begins
            obtain ⟨rfl, later⟩ :=
              prefix_segment_cons wholeFirst (whole segment List.mem_cons_self) begins
            rw [joinUndotted_cons notDot (List.cons_ne_nil _ _), List.prefix_append_right_inj,
              List.cons_prefix_cons]
            refine ⟨rfl, inductionHypothesis (mt (List.mem_cons_of_mem _) undotted) ?_ ?_ later⟩
            · exact fun other member => wholeStart other (List.mem_cons_of_mem _ member)
            · exact fun other member => whole other (List.mem_cons_of_mem _ member)

/-- A path that does not climb keeps its beginnings without dot segments. -/
theorem prefix_removeDotSegments {start path : List Char} (begins : start <+: path)
    (level : ['.', '.'] ∉ segmentsOf '/' path) (undotted : ['.'] ∉ segmentsOf '/' start) :
    start <+: removeDotSegments path := by
  have stays {start path : List Char} (begins : start <+: path)
      (undotted : ['.'] ∉ segmentsOf '/' start) :
      start <+: joinUndotted (segmentsOf '/' path) := by
    rw [← intercalate_segmentsOf '/' start]
    refine prefix_joinUndotted undotted (fun _ => not_mem_of_mem_segmentsOf)
      (fun _ => not_mem_of_mem_segmentsOf) ?_
    rwa [intercalate_segmentsOf, intercalate_segmentsOf]
  by_cases absolute : path.head? = some '/'
  · obtain ⟨rest, rfl⟩ := List.head?_eq_some_iff.1 absolute
    rw [segmentsOf_cons_separator] at level
    rw [removeDotSegments_absolute (mt (List.mem_cons_of_mem _) level)]
    cases start with
    | nil => exact List.nil_prefix
    | cons char start =>
        obtain ⟨rfl, later⟩ := List.cons_prefix_cons.1 begins
        rw [segmentsOf_cons_separator] at undotted
        exact List.cons_prefix_cons.2 ⟨rfl, stays later (mt (List.mem_cons_of_mem _) undotted)⟩
  · rw [removeDotSegments_relative absolute level]
    exact stays begins undotted

end ForwardTaint.Text
