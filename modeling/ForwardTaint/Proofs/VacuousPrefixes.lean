import ForwardTaint.Proofs.CanonicalLiterals
import ForwardTaint.Proofs.GuardVerdicts

/-!
Prefix checks that no decoded value passes.  The texts that are not canonical are those with escapes and
those with dot segments; the ones that begin no text without a percent sign are those that have one
themselves.  So a canonical text with a percent sign that belongs to no escape is taken for a check, and
a text with dot segments alone is refused although decoded values begin with it.
-/

namespace ForwardTaint

namespace Text

/-- No text without a percent sign begins with this one. -/
def IsVacuousPrefix (start : String) : Prop :=
  ∀ text : String, '%' ∉ text.toList → beginsWith start text = false

/-- One of the segments between slashes is `.` or `..`. -/
def HasDotSegment (path : List Char) : Prop :=
  ∃ segment ∈ segmentsOf '/' path, segment = ['.'] ∨ segment = ['.', '.']

instance (path : List Char) : Decidable (HasDotSegment path) :=
  inferInstanceAs (Decidable (∃ segment ∈ _, _))

theorem isVacuousPrefix_iff (start : String) : IsVacuousPrefix start ↔ '%' ∈ start.toList := by
  constructor
  · intro vacuous
    by_contra plain
    have begins : beginsWith start start = true :=
      List.isPrefixOf_iff_prefix.2 (List.prefix_refl _)
    rw [vacuous start plain] at begins
    exact nomatch begins
  · intro percent text plain
    rw [beginsWith, Bool.eq_false_iff]
    exact fun begins => plain ((List.isPrefixOf_iff_prefix.1 begins).subset percent)

theorem HasEscape.percent_mem {text : List Char} (escape : HasEscape text) : '%' ∈ text := by
  obtain ⟨first, second, -, -, inside⟩ := escape
  exact inside.subset List.mem_cons_self

/-- Resolving changes exactly the paths with dot segments. -/
theorem removeDotSegments_eq_self_iff (path : List Char) :
    removeDotSegments path = path ↔ ¬HasDotSegment path := by
  constructor
  · rintro same ⟨segment, member, isDots⟩
    rw [← same] at member
    have notDots := not_dots_of_mem_removeDotSegments member
    exact isDots.elim notDots.1 notDots.2
  · intro undotted
    exact removeDotSegments_eq_self (fun member => undotted ⟨_, member, .inl rfl⟩)
      (fun member => undotted ⟨_, member, .inr rfl⟩)

end Text

namespace CanonicalLiteral

open Text

/-- What is refused has an escape or a dot segment. -/
theorem ofText_changed_iff (literal : String) :
    (ofText literal).changed = true ↔
      HasEscape literal.toList ∨ HasDotSegment literal.toList := by
  rw [← Bool.not_eq_false, ofText_unchanged_iff, removeDotSegments_eq_self_iff]
  tauto

end CanonicalLiteral

namespace BarrierInput

/-- A check against a beginning that is refused, with none of its kind that the value has passed. -/
def Refuses (input : BarrierInput) (atom : GuardAtom) : Prop :=
  atom ∈ input.atoms ∧ atom.operator = .startsWith ∧
    (∃ literal, atom.operand.knownValue? = some literal ∧
      (Text.HasEscape literal.toList ∨ Text.HasDotSegment literal.toList)) ∧
    (if atom.negated then input.value.hasDenyPrefix else input.value.hasAllowPrefix) = false

end BarrierInput

namespace BarrierRule

open Text CanonicalLiteral

theorem isSome_judgeNonCanonicalLiteral (input : BarrierInput) :
    (judgeNonCanonicalLiteral input).isSome = true ↔ ∃ atom, input.Refuses atom := by
  simp only [judgeNonCanonicalLiteral, Option.isSome_map, List.find?_isSome, Bool.and_eq_true,
    isNonCanonicalPrefix_iff, ofText_changed_iff, Bool.not_eq_true']
  constructor
  · rintro ⟨atom, member, ⟨literal, isStart, refused⟩, unbacked⟩
    exact ⟨atom, member, isStart, ⟨literal, refused⟩, unbacked⟩
  · rintro ⟨atom, member, isStart, ⟨literal, refused⟩, unbacked⟩
    exact ⟨atom, member, ⟨literal, isStart, refused⟩, unbacked⟩

/-- The rule finds a guard ineffective exactly if the guard makes a check against a beginning with an
escape or a dot segment that no passed check of its kind stands behind, and says nothing of others.
Such a beginning is one that no text without a percent sign has, unless there is no percent sign in
it; and the beginnings that are let through although no such text has them are those in which no
percent sign belongs to an escape. -/
theorem judgeNonCanonicalLiteral_refuses (literal : String) (input : BarrierInput) :
    ((ofText literal).changed = true ∧ ¬IsVacuousPrefix literal ↔
      '%' ∉ literal.toList ∧ HasDotSegment literal.toList) ∧
    ((ofText literal).changed = false ∧ IsVacuousPrefix literal ↔
      '%' ∈ literal.toList ∧ ¬HasEscape literal.toList ∧ ¬HasDotSegment literal.toList) ∧
    ((judgeNonCanonicalLiteral input).map Prod.fst = some .ineffective ↔
      ∃ atom, input.Refuses atom) ∧
    (judgeNonCanonicalLiteral input = none ↔ ¬∃ atom, input.Refuses atom) := by
  refine ⟨?_, ?_, ?_⟩
  · rw [ofText_changed_iff, isVacuousPrefix_iff]
    constructor
    · rintro ⟨changed, plain⟩
      exact ⟨plain, changed.resolve_left fun escape => plain escape.percent_mem⟩
    · rintro ⟨plain, dotted⟩
      exact ⟨.inr dotted, plain⟩
  · rw [← Bool.not_eq_true, ofText_changed_iff, isVacuousPrefix_iff, not_or]
    exact and_comm
  · rw [← isSome_judgeNonCanonicalLiteral]
    cases judged : judgeNonCanonicalLiteral input with
    | none => simp
    | some outcome =>
        have verdict : outcome.1 = .ineffective := by
          obtain ⟨atom, -, same⟩ := Option.map_eq_some_iff.1 judged
          rw [← same]
        simp [verdict]

end BarrierRule

/-! Two prefixes with which the texts that they begin and the rule for beginnings disagree. -/

namespace StrayPercent

/-- The path does not begin with a text that no decoded path begins with, and has no `..`. -/
def atoms : List GuardAtom :=
  [⟨"path", .startsWith, .literal "/100%", true⟩, ⟨"path", .contains, .literal "..", true⟩]

/-- The path begins with a text that has a dot segment. -/
def dottedAtoms : List GuardAtom := [⟨"path", .startsWith, .literal "/pages/./", false⟩]

def guard (atoms : List GuardAtom) : GuardCondition := ⟨0, "test", .zero, atoms, [], [], none⟩

/-- A value that is known to be free of escapes. -/
def value : TaintValue :=
  GuardAtom.applyAll .tainted [⟨"path", .contains, .literal "%", true⟩]

def judge (atoms : List GuardAtom) : BarrierEvaluation :=
  (BarrierRegistry.standard ⟨false⟩).evaluate (guard atoms) true "path" atoms
    (GuardAtom.applyAll value atoms)

/-- A check that every decoded value passes makes a guard effective, and one that decoded values may
pass or not is taken for an encoded one. -/
theorem vacuous_check_is_effective :
    Text.IsVacuousPrefix "/100%" ∧ (CanonicalLiteral.ofText "/100%").changed = false ∧
    (judge atoms).verdict = .effective ∧ (judge atoms).rule = .canonicalDenyList ∧
    ¬Text.IsVacuousPrefix "/pages/./" ∧ (CanonicalLiteral.ofText "/pages/./").changed = true ∧
    (judge dottedAtoms).verdict = .ineffective ∧ (judge dottedAtoms).rule = .nonCanonicalLiteral := by
  refine ⟨(Text.isVacuousPrefix_iff _).2 (by decide), by decide +kernel, by cbv, by cbv,
    mt (Text.isVacuousPrefix_iff _).1 (by decide), by decide +kernel, by cbv, by cbv⟩

end StrayPercent

end ForwardTaint
