import ForwardTaint.Barrier.Literal
import ForwardTaint.Proofs.PathSegments
import Mathlib

/-!
Which texts are in canonical form.  Decoding an escape leaves fewer characters, and resolving dot
segments never leaves more; so no text comes back to itself once it has changed, and what does not
change has neither escapes nor dot segments.
-/

namespace ForwardTaint

namespace Text

/-- A digit of a number to the base sixteen, in either case. -/
def IsHexDigit (char : Char) : Prop :=
  '0' ≤ char ∧ char ≤ '9' ∨ 'a' ≤ char ∧ char ≤ 'f' ∨ 'A' ≤ char ∧ char ≤ 'F'

instance (char : Char) : Decidable (IsHexDigit char) := inferInstanceAs (Decidable (_ ∨ _))

/-- A percent sign with two hexadecimal digits behind it stands in the text. -/
def HasEscape (text : List Char) : Prop :=
  ∃ first second, IsHexDigit first ∧ IsHexDigit second ∧ ['%', first, second] <:+: text

theorem isSome_hexValue? (char : Char) : (Json.hexValue? char).isSome = true ↔ IsHexDigit char := by
  have isDigit : char.isDigit = true ↔ '0' ≤ char ∧ char ≤ '9' := by
    rw [Char.isDigit, Bool.and_eq_true, decide_eq_true_eq, decide_eq_true_eq]
    rfl
  unfold Json.hexValue? IsHexDigit
  rw [← isDigit]
  split
  · rename_i digit
    simp [digit]
  · rename_i noDigit
    split
    · rename_i small
      simp [small]
    · rename_i notSmall
      split
      · rename_i capital
        simp [capital]
      · rename_i notCapital
        simp [noDigit, notSmall, notCapital]

/-- Two characters write a byte if both are hexadecimal digits. -/
theorem isSome_hexByte? (first second : Char) :
    (hexByte? first second).isSome = true ↔ IsHexDigit first ∧ IsHexDigit second := by
  rw [← isSome_hexValue?, ← isSome_hexValue?, hexByte?]
  cases Json.hexValue? first <;> cases Json.hexValue? second <;> simp

theorem isEscape_of_hexByte? {first second : Char} {byte : Nat}
    (isByte : hexByte? first second = some byte) (rest : List Char) :
    HasEscape ('%' :: first :: second :: rest) := by
  obtain ⟨isFirst, isSecond⟩ := (isSome_hexByte? first second).1 (isByte ▸ rfl)
  exact ⟨first, second, isFirst, isSecond, (List.prefix_append _ rest).isInfix⟩

theorem HasEscape.mono {part text : List Char} (escape : HasEscape part) (within : part <:+: text) :
    HasEscape text := by
  obtain ⟨first, second, isFirst, isSecond, inside⟩ := escape
  exact ⟨first, second, isFirst, isSecond, inside.trans within⟩

/-- An escape that does not begin a text stands behind its first character. -/
theorem hasEscape_cons_iff (char : Char) (rest : List Char) :
    HasEscape (char :: rest) ↔
      (char = '%' ∧ ∃ first second later, rest = first :: second :: later ∧
        IsHexDigit first ∧ IsHexDigit second) ∨ HasEscape rest := by
  constructor
  · rintro ⟨first, second, isFirst, isSecond, inside⟩
    rcases List.infix_cons_iff.1 inside with ⟨later, begins⟩ | behind
    · obtain ⟨rfl, rfl⟩ := List.cons.inj begins
      exact .inl ⟨rfl, first, second, later, rfl, isFirst, isSecond⟩
    · exact .inr ⟨first, second, isFirst, isSecond, behind⟩
  · rintro (⟨rfl, first, second, later, rfl, isFirst, isSecond⟩ | behind)
    · exact ⟨first, second, isFirst, isSecond, (List.prefix_append _ later).isInfix⟩
    · exact behind.mono (List.suffix_cons char rest).isInfix

/-- Bytes are read as at most one character each, and a character that has begun as one more. -/
theorem length_lossyFrom_le (begun : Option PartialChar) (bytes : List Nat) :
    (lossyFrom begun bytes).length ≤ bytes.length + begun.toList.length := by
  fun_induction lossyFrom begun bytes with
  | case1 => exact Nat.le_refl 0
  | case2 => exact Nat.le_refl 1
  | case3 | case4 | case5 | case6 | case7 | case8 | case9 | case10 =>
      simp only [List.length_cons, Option.toList_some, Option.toList_none, List.length_nil] at *
      omega

theorem length_lossy_le (bytes : List Nat) : (lossy bytes).length ≤ bytes.length :=
  length_lossyFrom_le none bytes

/-- Decoding does not make a text longer. -/
theorem length_percentDecodeFrom_le (bytes : List Nat) (text : List Char) :
    (percentDecodeFrom bytes text).length ≤ bytes.length + text.length := by
  fun_induction percentDecodeFrom bytes text with
  | case1 bytes => exact length_lossy_le bytes
  | case2 bytes first second rest byte isByte inductionHypothesis =>
      simp only [List.length_append, List.length_cons, List.length_nil] at *
      omega
  | case3 bytes first second rest noByte inductionHypothesis
  | case4 bytes char rest noEscape inductionHypothesis =>
      have shorter := length_lossy_le bytes
      simp only [List.length_append, List.length_cons, List.length_nil] at *
      omega

/-- Three characters of an escape make at most one. -/
theorem length_percentDecodeFrom_lt (bytes : List Nat) {text : List Char}
    (escape : HasEscape text) :
    (percentDecodeFrom bytes text).length < bytes.length + text.length := by
  fun_induction percentDecodeFrom bytes text with
  | case1 bytes =>
      obtain ⟨first, second, -, -, inside⟩ := escape
      exact absurd (List.infix_nil.1 inside) (List.cons_ne_nil _ _)
  | case2 bytes first second rest byte isByte inductionHypothesis =>
      have noLonger := length_percentDecodeFrom_le (bytes ++ [byte]) rest
      simp only [List.length_append, List.length_cons, List.length_nil] at *
      omega
  | case3 bytes first second rest noByte inductionHypothesis =>
      have shorter := length_lossy_le bytes
      have behind : HasEscape (first :: second :: rest) := by
        refine ((hasEscape_cons_iff _ _).1 escape).resolve_left ?_
        rintro ⟨-, first', second', rest', same, isFirst, isSecond⟩
        simp only [List.cons.injEq] at same
        have isByte := (isSome_hexByte? first second).2 (same.1 ▸ same.2.1 ▸ ⟨isFirst, isSecond⟩)
        rw [noByte] at isByte
        exact nomatch isByte
      have strict := inductionHypothesis behind
      simp only [List.length_append, List.length_cons, List.length_nil] at *
      omega
  | case4 bytes char rest noEscape inductionHypothesis =>
      have shorter := length_lossy_le bytes
      have behind : HasEscape rest := by
        refine ((hasEscape_cons_iff _ _).1 escape).resolve_left ?_
        rintro ⟨isPercent, first, second, later, same, -⟩
        exact noEscape first second later isPercent same
      have strict := inductionHypothesis behind
      simp only [List.length_append, List.length_cons, List.length_nil] at *
      omega

/-- A text without escapes is left alone. -/
theorem percentDecodeFrom_of_not_hasEscape {bytes : List Nat} {text : List Char}
    (plain : ¬HasEscape text) : percentDecodeFrom bytes text = lossy bytes ++ text := by
  fun_induction percentDecodeFrom bytes text with
  | case1 bytes => rw [List.append_nil]
  | case2 bytes first second rest byte isByte inductionHypothesis =>
      exact absurd (isEscape_of_hexByte? isByte rest) plain
  | case3 bytes first second rest noByte inductionHypothesis
  | case4 bytes char rest noEscape inductionHypothesis =>
      rw [inductionHypothesis fun behind => plain ((hasEscape_cons_iff _ _).2 (.inr behind))]
      rfl

/-- Decoding changes exactly the texts with escapes. -/
theorem percentDecode_eq_self_iff (text : List Char) :
    percentDecode text = text ↔ ¬HasEscape text := by
  constructor
  · intro same escape
    have shorter := length_percentDecodeFrom_lt [] escape
    rw [List.length_nil, Nat.zero_add] at shorter
    exact absurd (congrArg List.length same) (Nat.ne_of_lt shorter)
  · exact percentDecodeFrom_of_not_hasEscape

theorem length_percentDecodeTimes_le (passes : Nat) (text : List Char) :
    (percentDecodeTimes passes text).length ≤ text.length := by
  induction passes generalizing text with
  | zero => exact Nat.le_refl _
  | succ passes inductionHypothesis =>
      rw [percentDecodeTimes]
      split
      · exact Nat.le_refl _
      · have noLonger := length_percentDecodeFrom_le [] text
        rw [List.length_nil, Nat.zero_add] at noLonger
        exact (inductionHypothesis _).trans noLonger

theorem percentDecodeFully_of_not_hasEscape {text : List Char} (plain : ¬HasEscape text) :
    percentDecodeFully text = text := by
  rw [percentDecodeFully, percentDecodeTimes]
  exact if_pos ((percentDecode_eq_self_iff text).2 plain)

/-- Decoding fully leaves fewer characters where there was an escape. -/
theorem length_percentDecodeFully_lt {text : List Char} (escape : HasEscape text) :
    (percentDecodeFully text).length < text.length := by
  have changes : percentDecode text ≠ text := mt (percentDecode_eq_self_iff text).1 (not_not.2 escape)
  have shorter := length_percentDecodeFrom_lt [] escape
  rw [List.length_nil, Nat.zero_add] at shorter
  rw [percentDecodeFully, percentDecodeTimes, if_neg changes]
  exact (length_percentDecodeTimes_le _ _).trans_lt shorter

/-- The number of characters of segments with one more for each. -/
def segmentsLength (segments : List (List Char)) : Nat :=
  (segments.map fun segment => segment.length + 1).sum

@[simp] theorem segmentsLength_nil : segmentsLength [] = 0 := rfl

@[simp] theorem segmentsLength_cons (segment : List Char) (segments : List (List Char)) :
    segmentsLength (segment :: segments) = segment.length + 1 + segmentsLength segments :=
  List.sum_cons

theorem segmentsLength_reverse (segments : List (List Char)) :
    segmentsLength segments.reverse = segmentsLength segments := by
  rw [segmentsLength, List.map_reverse, List.sum_reverse, segmentsLength]

theorem length_intercalate (separator : Char) (segments : List (List Char)) :
    ([separator].intercalate segments).length = segmentsLength segments - 1 := by
  induction segments with
  | nil => rfl
  | cons segment segments inductionHypothesis =>
      cases segments with
      | nil => simp
      | cons next segments =>
          rw [List.intercalate_cons_cons, List.length_append, List.length_append,
            inductionHypothesis]
          simp only [segmentsLength_cons, List.length_cons, List.length_nil]
          omega

theorem segmentsLength_segmentsOf (separator : Char) (text : List Char) :
    segmentsLength (segmentsOf separator text) = text.length + 1 := by
  obtain ⟨segment, segments, split⟩ := List.exists_cons_of_ne_nil (segmentsOf_ne_nil separator text)
  have joined := congrArg List.length (intercalate_segmentsOf separator text)
  rw [length_intercalate, split, segmentsLength_cons] at joined
  rw [split, segmentsLength_cons]
  omega

/-- The segments that stay, and the slash for a resolved one at the end, are no longer than what they
are made of. -/
theorem segmentsLength_resolveSegments (kept segments : List (List Char)) (resolved : Bool) :
    segmentsLength (resolveSegments kept resolved segments).1 +
        (resolveSegments kept resolved segments).2.toNat ≤
      segmentsLength kept + segmentsLength segments + (segments.isEmpty && resolved).toNat := by
  induction segments generalizing kept resolved with
  | nil => simp [resolveSegments]
  | cons segment rest inductionHypothesis =>
      have atMostOne := Bool.toNat_le (rest.isEmpty && rest.isEmpty)
      rw [resolveSegments, segmentsLength_cons]
      split
      · have later := inductionHypothesis kept rest.isEmpty
        omega
      · split
        · have later := inductionHypothesis kept.tail rest.isEmpty
          have fewer : segmentsLength kept.tail ≤ segmentsLength kept := by cases kept <;> simp
          omega
        · have later := inductionHypothesis (segment :: kept) false
          rw [Bool.and_false, Bool.toNat_false, segmentsLength_cons] at later
          omega

/-- The path that is made of the segments that stay, last first, and possibly a slash at the end. -/
def joinKept (outcome : List (List Char) × Bool) : List Char :=
  ['/'].intercalate outcome.1.reverse ++ if outcome.2 && !outcome.1.isEmpty then ['/'] else []

theorem removeDotSegments_cons_slash (path : List Char) :
    removeDotSegments ('/' :: path) =
      '/' :: joinKept (resolveSegments [] false (segmentsOf '/' path)) := by
  simp [removeDotSegments, joinKept, segmentsOf_cons_separator]

theorem removeDotSegments_of_relative {path : List Char} (relative : path.head? ≠ some '/') :
    removeDotSegments path = joinKept (resolveSegments [] false (segmentsOf '/' path)) := by
  simp [removeDotSegments, joinKept, relative]

theorem length_joinKept_le (outcome : List (List Char) × Bool) :
    (joinKept outcome).length ≤ segmentsLength outcome.1 + outcome.2.toNat - 1 := by
  obtain ⟨kept, resolved⟩ := outcome
  rw [joinKept, List.length_append, length_intercalate, segmentsLength_reverse]
  cases kept with
  | nil => simp
  | cons segment kept =>
      rw [segmentsLength_cons]
      cases resolved with
      | false => simp
      | true =>
          rw [List.isEmpty_cons, Bool.not_false, Bool.and_true, if_pos rfl, List.length_singleton,
            Bool.toNat_true]
          omega

theorem length_joinKept_resolveSegments_le (path : List Char) :
    (joinKept (resolveSegments [] false (segmentsOf '/' path))).length ≤ path.length := by
  have joined := length_joinKept_le (resolveSegments [] false (segmentsOf '/' path))
  have bound := segmentsLength_resolveSegments [] (segmentsOf '/' path) false
  rw [segmentsLength_segmentsOf, Bool.and_false, Bool.toNat_false, segmentsLength_nil] at bound
  omega

/-- Resolving dot segments does not make a path longer. -/
theorem length_removeDotSegments_le (path : List Char) :
    (removeDotSegments path).length ≤ path.length := by
  by_cases absolute : path.head? = some '/'
  · obtain ⟨rest, rfl⟩ := List.head?_eq_some_iff.1 absolute
    rw [removeDotSegments_cons_slash, List.length_cons, List.length_cons]
    exact Nat.succ_le_succ (length_joinKept_resolveSegments_le rest)
  · rw [removeDotSegments_of_relative absolute]
    exact length_joinKept_resolveSegments_le path

theorem joinUndotted_of_not_mem {segments : List (List Char)} (undotted : ['.'] ∉ segments) :
    joinUndotted segments = ['/'].intercalate segments := by
  induction segments with
  | nil => rfl
  | cons segment rest inductionHypothesis =>
      have notDot : segment ≠ ['.'] := fun same => undotted (same ▸ List.mem_cons_self)
      cases rest with
      | nil => rw [joinUndotted, if_neg notDot, List.intercalate_singleton]
      | cons next rest =>
          rw [joinUndotted_cons notDot (List.cons_ne_nil _ _),
            inductionHypothesis (mt (List.mem_cons_of_mem _) undotted), List.intercalate_cons_cons,
            List.append_assoc, List.singleton_append]

/-- A path is left alone if it has no dot segments. -/
theorem removeDotSegments_eq_self {path : List Char} (undotted : ['.'] ∉ segmentsOf '/' path)
    (level : ['.', '.'] ∉ segmentsOf '/' path) : removeDotSegments path = path := by
  by_cases absolute : path.head? = some '/'
  · obtain ⟨rest, rfl⟩ := List.head?_eq_some_iff.1 absolute
    rw [segmentsOf_cons_separator] at undotted level
    rw [removeDotSegments_absolute (mt (List.mem_cons_of_mem _) level),
      joinUndotted_of_not_mem (mt (List.mem_cons_of_mem _) undotted), intercalate_segmentsOf]
  · rw [removeDotSegments_relative absolute level, joinUndotted_of_not_mem undotted,
      intercalate_segmentsOf]

/-- Resolving dot segments again changes nothing. -/
theorem removeDotSegments_removeDotSegments (path : List Char) :
    removeDotSegments (removeDotSegments path) = removeDotSegments path :=
  removeDotSegments_eq_self (fun member => (not_dots_of_mem_removeDotSegments member).1 rfl)
    (fun member => (not_dots_of_mem_removeDotSegments member).2 rfl)

/-- Resolving dot segments makes no escapes. -/
theorem HasEscape.of_removeDotSegments {path : List Char}
    (escape : HasEscape (removeDotSegments path)) : HasEscape path := by
  obtain ⟨first, second, isFirst, isSecond, inside⟩ := escape
  have notSlash {char : Char} (digit : IsHexDigit char) : '/' ≠ char := by
    rintro rfl
    exact absurd digit (by decide)
  refine ⟨first, second, isFirst, isSecond,
    infix_of_infix_removeDotSegments ?_ (List.cons_ne_nil _ _) inside⟩
  simp [notSlash isFirst, notSlash isSecond]

end Text

namespace CanonicalLiteral

open Text

theorem ofText_changed_eq_false_iff (literal : String) :
    (ofText literal).changed = false ↔
      removeDotSegments (percentDecodeFully literal.toList) = literal.toList := by
  rw [ofText, bne_eq_false_iff_eq, ← String.toList_inj, String.toList_ofList]

/-- A text is canonical exactly if it has neither escapes nor dot segments. -/
theorem ofText_unchanged_iff (literal : String) :
    (ofText literal).changed = false ↔
      ¬HasEscape literal.toList ∧ removeDotSegments literal.toList = literal.toList := by
  rw [ofText_changed_eq_false_iff]
  constructor
  · intro same
    have plain : ¬HasEscape literal.toList := fun escape =>
      -- Decoding an escape leaves fewer characters, and none come back when segments are resolved.
      absurd (congrArg List.length same) (Nat.ne_of_lt
        ((length_removeDotSegments_le _).trans_lt (length_percentDecodeFully_lt escape)))
    rw [percentDecodeFully_of_not_hasEscape plain] at same
    exact ⟨plain, same⟩
  · rintro ⟨plain, same⟩
    rw [percentDecodeFully_of_not_hasEscape plain, same]

/-- A canonical text is its own canonical form. -/
theorem ofText_of_unchanged {literal : String} (canonical : (ofText literal).changed = false) :
    ofText literal = ⟨literal, false⟩ := by
  have same := (ofText_changed_eq_false_iff literal).1 canonical
  have value : (ofText literal).value = literal := by
    rw [ofText, same, String.ofList_toList]
  cases form : ofText literal
  rw [form] at canonical value
  rw [← canonical, ← value]

/-- A text is canonical exactly if it has neither escapes nor dot segments; the canonical form of a text
that eight passes decode is canonical; and resolving dot segments leaves none, so that doing it again
changes nothing. -/
theorem ofText_detects :
    (∀ literal : String, (ofText literal).changed = false ↔
      ¬HasEscape literal.toList ∧ removeDotSegments literal.toList = literal.toList) ∧
    (∀ literal : String,
      percentDecode (percentDecodeFully literal.toList) = percentDecodeFully literal.toList →
      ofText (ofText literal).value = ⟨(ofText literal).value, false⟩) ∧
    ∀ path : List Char, removeDotSegments (removeDotSegments path) = removeDotSegments path ∧
      ∀ segment ∈ segmentsOf '/' (removeDotSegments path), segment ≠ ['.'] ∧ segment ≠ ['.', '.'] := by
  refine ⟨ofText_unchanged_iff, ?_, ?_⟩
  · intro literal decoded
    refine ofText_of_unchanged ((ofText_unchanged_iff _).2 ?_)
    rw [ofText, String.toList_ofList]
    have plain := (percentDecode_eq_self_iff _).1 decoded
    exact ⟨fun escape => plain escape.of_removeDotSegments, removeDotSegments_removeDotSegments _⟩
  · intro path
    exact ⟨removeDotSegments_removeDotSegments path,
      fun segment member => not_dots_of_mem_removeDotSegments member⟩

end CanonicalLiteral

/-! A prefix that climbs out of its directory, encoded twice. -/

namespace EncodedClimb

def literal : String := "/pages/%252e%252e/%57EB-INF/."

/-- The prefix is not canonical, and its canonical form is. -/
theorem form_is_canonical :
    (CanonicalLiteral.ofText literal).changed = true ∧
    Text.percentDecode (Text.percentDecodeFully literal.toList) =
      Text.percentDecodeFully literal.toList ∧
    CanonicalLiteral.ofText literal = ⟨"/WEB-INF/", true⟩ ∧
    CanonicalLiteral.ofText "/WEB-INF/" = ⟨"/WEB-INF/", false⟩ := by
  have form : CanonicalLiteral.ofText literal = ⟨"/WEB-INF/", true⟩ := by decide +kernel
  have decoded : Text.percentDecode (Text.percentDecodeFully literal.toList) =
      Text.percentDecodeFully literal.toList := by decide +kernel
  have again := CanonicalLiteral.ofText_detects.2.1 literal decoded
  rw [form] at again
  exact ⟨by rw [form], decoded, form, again⟩

end EncodedClimb

end ForwardTaint
