import ForwardTaint.Proofs.PathSegments
import ForwardTaint.Proofs.RecordedChecks
import ForwardTaint.Proofs.SmallLetters
import ForwardTaint.Propagation.Transfer
import Mathlib

/-!
What the checks of a value say of its text behind a sanitizer.  A decoded value has none left.  The
other sanitizers keep them all, and most stay true: resolving dot segments and lower-casing bring no
`..` and no escape into a text.  A path that climbs can leave the directory that it begins with,
though, and a beginning with capital letters is lost in small ones.
-/

namespace ForwardTaint

namespace Text

theorem beginsWith_iff {start text : String} :
    beginsWith start text = true ↔ start.toList <+: text.toList := List.isPrefixOf_iff_prefix

theorem beginsWith_eq_false_iff {start text : String} :
    beginsWith start text = false ↔ ¬start.toList <+: text.toList := by
  rw [← beginsWith_iff, Bool.not_eq_true]

theorem toList_lowercase (text : String) :
    (lowercase text).toList = lowercaseFrom [] text.toList := String.toList_ofList

theorem lowercase_eq_iff {text small : String} :
    lowercase text = small ↔ lowercaseFrom [] text.toList = small.toList := by
  rw [← toList_lowercase, String.toList_inj]

theorem isSmall_of_lowercase_eq {text : String} (small : lowercase text = text) :
    ∀ char ∈ text.toList, IsSmall char := fun _ member =>
  isSmall_of_mem_lowercaseFrom (lowercase_eq_iff.1 small ▸ member)

end Text

/-- The text that a sanitizer makes of a text. -/
def SanitizerKind.result (text : String) : SanitizerKind → String
  | .decode => String.ofList (Text.percentDecode text.toList)
  | .normalize => String.ofList (Text.removeDotSegments text.toList)
  | .caseFold => Text.lowercase text

namespace SanitizerKind

/-- Resolving dot segments and lower-casing bring no part into a text that has neither slashes nor
letters. -/
theorem absent_result {kind : SanitizerKind} (keeps : kind ≠ .decode) {part text : String}
    (some : part.toList ≠ []) (noSlash : '/' ∉ part.toList)
    (noLetters : ∀ char ∈ part.toList, char.toNat < 0x61)
    (absent : Text.contains part text = false) : Text.contains part (kind.result text) = false := by
  rw [← Bool.not_eq_true, Text.contains_iff] at absent ⊢
  intro within
  cases kind with
  | decode => exact keeps rfl
  | normalize =>
      rw [result, String.toList_ofList] at within
      exact absent (Text.infix_of_infix_removeDotSegments noSlash some within)
  | caseFold =>
      rw [result, Text.toList_lowercase] at within
      exact absent (Text.infix_of_infix_lowercaseFrom noLetters some within)

end SanitizerKind

namespace Check

/-- What a check says of a text may no longer be so when the sanitizer has changed the text. -/
inductive EndangeredBy (text : String) : SanitizerKind → Check → Prop where
  /-- The path climbs, possibly out of where it began. -/
  | climbs {start : String} (climbing : ['.', '.'] ∈ Text.segmentsOf '/' text.toList) :
      EndangeredBy text .normalize (.allowPrefix start)
  /-- The beginning has a segment that is resolved. -/
  | dotted {start : String} (dot : ['.'] ∈ Text.segmentsOf '/' start.toList) :
      EndangeredBy text .normalize (.allowPrefix start)
  /-- The beginning has letters that are not small. -/
  | capital {start : String} (notSmall : Text.lowercase start ≠ start) :
      EndangeredBy text .caseFold (.allowPrefix start)
  /-- A path that is changed may come to begin with what was denied, if that can be written in one
  way only. -/
  | exposed {start : String} (only : ∃! literal, Text.lowercase literal = start)
      (changed : SanitizerKind.normalize.result text ≠ text) :
      EndangeredBy text .normalize (.denyPrefix start)
  /-- A capital sigma may become one that was denied, if that can be written in one way only. -/
  | sigma {start : String} (only : ∃! literal, Text.lowercase literal = start)
      (capital : 'Σ' ∈ text.toList) (small : 'σ' ∈ start.toList ∨ 'ς' ∈ start.toList) :
      EndangeredBy text .caseFold (.denyPrefix start)

variable {text start : String}

/-- A path without `..` does not climb. -/
theorem level_of_noTraversal (holds : noTraversal.HoldsOf text) :
    ['.', '.'] ∉ Text.segmentsOf '/' text.toList := fun climbing => by
  have contained : Text.contains ".." text = true :=
    Text.contains_iff.2 (Text.infix_of_mem_segmentsOf climbing)
  exact absurd (contained.symm.trans holds) (by decide)

/-- A path that does not climb begins as before when its dot segments are resolved. -/
theorem allowPrefix_normalized (holds : (allowPrefix start).HoldsOf text)
    (level : ['.', '.'] ∉ Text.segmentsOf '/' text.toList)
    (undotted : ['.'] ∉ Text.segmentsOf '/' start.toList) :
    (allowPrefix start).HoldsOf (SanitizerKind.normalize.result text) := by
  rw [HoldsOf, Text.beginsWith_iff] at holds ⊢
  rw [SanitizerKind.result, String.toList_ofList]
  exact Text.prefix_removeDotSegments holds level undotted

/-- Of the beginnings of a text those in small letters, and no others, are left when it is
lower-cased. -/
theorem allowPrefix_folded_iff (holds : (allowPrefix start).HoldsOf text) :
    (allowPrefix start).HoldsOf (SanitizerKind.caseFold.result text) ↔
      Text.lowercase start = start := by
  rw [HoldsOf, Text.beginsWith_iff] at holds ⊢
  rw [SanitizerKind.result, Text.toList_lowercase]
  constructor
  · intro begins
    rw [Text.lowercase_eq_iff]
    exact Text.lowercaseFrom_of_isSmall
      (fun char member => Text.isSmall_of_mem_lowercaseFrom (begins.subset member)) []
  · intro small
    obtain ⟨rest, whole⟩ := holds
    rw [← whole, Text.lowercaseFrom_append_of_isSmall (Text.isSmall_of_lowercase_eq small)]
    exact List.prefix_append _ _

/-- A text begins with at most one of the texts that have one small form, so there is one that it does
not begin with, unless it is the only one. -/
theorem denyPrefix_or_unique (form : ∃ literal, Text.lowercase literal = start) (text : String) :
    (denyPrefix start).HoldsOf text ∨ ∃! literal, Text.lowercase literal = start := by
  by_cases holds : (denyPrefix start).HoldsOf text
  · exact .inl holds
  · have begins (literal : String) (isForm : Text.lowercase literal = start) :
        literal.toList <+: text.toList := by
      rw [← Text.beginsWith_iff, ← Bool.not_eq_false]
      exact fun different => holds ⟨literal, isForm, different⟩
    obtain ⟨literal, isForm⟩ := form
    refine .inr ⟨literal, isForm, fun other isOther => String.toList_inj.1 ?_⟩
    refine Text.eq_of_prefix_of_lowercaseFrom (begins other isOther) (begins literal isForm) ?_
    rw [Text.lowercase_eq_iff.1 isOther, Text.lowercase_eq_iff.1 isForm]

/-- A text that is lower-cased does not come to begin with what was denied, unless by a sigma. -/
theorem denyPrefix_folded (holds : (denyPrefix start).HoldsOf text)
    (noSigma : 'Σ' ∉ text.toList ∨ 'σ' ∉ start.toList ∧ 'ς' ∉ start.toList) :
    (denyPrefix start).HoldsOf (SanitizerKind.caseFold.result text) := by
  obtain ⟨literal, isForm, different⟩ := holds
  obtain ⟨chars, isForm, different⟩ := Text.exists_not_prefix_lowercaseFrom
    ⟨literal.toList, Text.lowercase_eq_iff.1 isForm, Text.beginsWith_eq_false_iff.1 different⟩
    noSigma
  refine ⟨String.ofList chars, ?_, ?_⟩
  · rwa [Text.lowercase_eq_iff, String.toList_ofList]
  · rwa [Text.beginsWith_eq_false_iff, String.toList_ofList, SanitizerKind.result,
      Text.toList_lowercase]

/-- A check of a text is true of the text that a sanitizer other than decoding makes of it, or is in
danger. -/
theorem holdsOf_result {kind : SanitizerKind} (keeps : kind ≠ .decode) {check : Check}
    (holds : check.HoldsOf text) :
    check.HoldsOf (kind.result text) ∨ check.EndangeredBy text kind := by
  cases check with
  | exactMatch _ => exact .inl trivial
  | noTraversal =>
      exact .inl (SanitizerKind.absent_result keeps (by decide) (by decide) (by simp) holds)
  | noEncoding =>
      exact .inl (SanitizerKind.absent_result keeps (by decide) (by decide) (by simp) holds)
  | allowPrefix start =>
      cases kind with
      | decode => exact absurd rfl keeps
      | normalize =>
          by_cases climbing : ['.', '.'] ∈ Text.segmentsOf '/' text.toList
          · exact .inr (.climbs climbing)
          · by_cases dot : ['.'] ∈ Text.segmentsOf '/' start.toList
            · exact .inr (.dotted dot)
            · exact .inl (allowPrefix_normalized holds climbing dot)
      | caseFold =>
          by_cases small : Text.lowercase start = start
          · exact .inl ((allowPrefix_folded_iff holds).2 small)
          · exact .inr (.capital small)
  | denyPrefix start =>
      have form : ∃ literal, Text.lowercase literal = start :=
        holds.imp fun _ denied => denied.1
      cases kind with
      | decode => exact absurd rfl keeps
      | normalize =>
          by_cases same : SanitizerKind.normalize.result text = text
          · exact .inl (same.symm ▸ holds)
          · exact (denyPrefix_or_unique form _).imp_right fun only => .exposed only same
      | caseFold =>
          rcases denyPrefix_or_unique form (SanitizerKind.caseFold.result text) with stays | only
          · exact .inl stays
          · by_cases noSigma : 'Σ' ∉ text.toList ∨ 'σ' ∉ start.toList ∧ 'ς' ∉ start.toList
            · exact .inl (denyPrefix_folded holds noSigma)
            · simp only [not_or, not_not, not_and_or] at noSigma
              exact .inr (.sigma only noSigma.1 noSigma.2)

end Check

/-- A beginning that a guard allows has no dot segments. -/
theorem GuardAtom.undotted_of_check? {atom : GuardAtom} {start : String}
    (makes : atom.check? = some (.allowPrefix start)) :
    ['.'] ∉ Text.segmentsOf '/' start.toList := by
  unfold check? at makes
  split at makes
  case h_1 literal _ _ _ =>
    obtain ⟨-, isStart⟩ := Option.ite_none_right_eq_some.1 makes
    cases isStart
    intro dot
    simp only [CanonicalLiteral.ofText, String.toList_ofList] at dot
    exact (Text.not_dots_of_mem_removeDotSegments dot).1 rfl
  case h_2 => simp at makes
  case h_3 =>
    split at makes
    · simp at makes
    · simp at makes
  case h_4 => simp at makes
  case h_5 => simp at makes
  case h_6 => simp at makes

/-- A path begins as a guard has allowed when its dot segments are resolved too, if it is known to
have no `..`. -/
theorem GuardAtom.allowPrefix_normalized {atom : GuardAtom} {start text : String}
    (makes : atom.check? = some (.allowPrefix start))
    (holds : (Check.allowPrefix start).HoldsOf text) (confined : Check.noTraversal.HoldsOf text) :
    (Check.allowPrefix start).HoldsOf (SanitizerKind.normalize.result text) :=
  Check.allowPrefix_normalized holds (Check.level_of_noTraversal confined)
    (undotted_of_check? makes)

/-- A sanitizer keeps all checks or, if it decodes, none. -/
theorem TaintValue.checks_sanitized {value : TaintValue} (dirty : value.isClean = false)
    (kind : SanitizerKind) :
    (value.sanitized kind).checks = if kind = .decode then .empty else value.checks := by
  unfold sanitized
  rw [dirty]
  cases kind with
  | decode => rfl
  | normalize =>
      change value.normalized.checks = value.checks
      unfold normalized
      split <;> rfl
  | caseFold => rfl

/-- Behind a sanitizer no check is left if it decodes, and else all are; and each of those is true
of the text that the sanitizer makes, if it was of the text before and is not in danger. -/
theorem FlowGraph.transfer_sanitizer_checks_hold (graph : FlowGraph) (registry : BarrierRegistry)
    (seed : Nat) (values : NodeValues) (number : Nat) (node : FlowNode) (kind : SanitizerKind)
    (isSanitizer : node.kind = .sanitizerCall kind) (value : TaintValue)
    (arrives : graph.input values number = value) (dirty : value.isClean = false) (text : String)
    (had : ∀ check ∈ value.checks, check.HoldsOf text) :
    (graph.transfer registry seed values number node).value.checks =
      (if kind = .decode then .empty else value.checks) ∧
    ∀ check ∈ (graph.transfer registry seed values number node).value.checks,
      check.HoldsOf (kind.result text) ∨ check.EndangeredBy text kind := by
  have kept : (graph.transfer registry seed values number node).value.checks =
      if kind = .decode then .empty else value.checks := by
    rw [transfer, isSanitizer, arrives]
    exact value.checks_sanitized dirty kind
  refine ⟨kept, fun check member => ?_⟩
  rw [kept] at member
  split at member
  · exact absurd member (CheckSet.not_mem_empty check)
  · rename_i keeps
    exact Check.holdsOf_result keeps (had check member)

namespace ResolvedPages

/-- The path has no escapes and lies below the pages. -/
def atoms : List GuardAtom :=
  [⟨"path", .contains, .literal "%", true⟩, ⟨"path", .startsWith, .literal "/pages/", false⟩]

/-- A path that has passed the test for pages. -/
def page : TaintValue := GuardAtom.applyAll .tainted atoms

/-- The path is resolved. -/
def graph : FlowGraph where
  procedureName := "serve"
  nodes := #[
    ⟨.variableRef, "path", .zero, some "path"⟩,
    ⟨.sanitizerCall .normalize, "path.normalize()", .zero, none⟩]
  edges := [⟨0, 1, .plain .receiver⟩]
  guards := #[]
  sources := []
  sinks := []

/-- The value behind the resolution. -/
def resolved : TaintValue :=
  (graph.transfer (.standard ⟨false⟩) 0 #[page] 1
    ⟨.sanitizerCall .normalize, "path.normalize()", .zero, none⟩).value

/-- The path names a page by its ending. -/
def pageAtoms : List GuardAtom := [⟨"path", .contains, .literal ".jsp", false⟩]

def guard : GuardCondition := ⟨0, "path.contains(\".jsp\")", .zero, pageAtoms, [], [], none⟩

theorem mem_page {check : Check} :
    check ∈ page.checks ↔ check = .allowPrefix "/pages/" ∨ check = .noEncoding := by
  have checks : page.checks.checks = [.allowPrefix "/pages/", .noEncoding] := by cbv
  change check ∈ page.checks.checks ↔ _
  rw [checks, List.mem_cons, List.mem_singleton]

/-- A text below the pages without escapes passes the checks of a page. -/
theorem had {text : String} (below : Text.beginsWith "/pages/" text = true)
    (plain : Text.contains "%" text = false) : ∀ check ∈ page.checks, check.HoldsOf text := by
  intro check member
  rcases mem_page.1 member with rfl | rfl
  · exact below
  · exact plain

/-- A path that climbs out of the pages still counts as a page when it is resolved, and the next guard
on it is effective. -/
theorem climbing_path_stays_a_page :
    (∀ check ∈ page.checks, check.HoldsOf "/pages/../WEB-INF/web.jsp") ∧
    Check.allowPrefix "/pages/" ∈ resolved.checks ∧
    SanitizerKind.normalize.result "/pages/../WEB-INF/web.jsp" = "/WEB-INF/web.jsp" ∧
    ¬(Check.allowPrefix "/pages/").HoldsOf "/WEB-INF/web.jsp" ∧
    ((BarrierRegistry.standard ⟨false⟩).evaluate guard true "path" pageAtoms
      (GuardAtom.applyAll resolved pageAtoms)).verdict = .effective := by
  refine ⟨had (by decide) (by decide), by decide, by decide, fun begins => ?_, by cbv⟩
  have different : Text.beginsWith "/pages/" "/WEB-INF/web.jsp" = false := by decide
  exact absurd (begins.symm.trans different) (by decide)

/-- A page whose path has a dot segment but does not climb is still one when it is resolved. -/
theorem dotted_path_stays_a_page :
    (∀ check ∈ page.checks, check.HoldsOf "/pages/./home.jsp") ∧
    page.checks = resolved.checks ∧
    ∀ check ∈ resolved.checks, check.HoldsOf "/pages/home.jsp" := by
  have holds : ∀ check ∈ page.checks, check.HoldsOf "/pages/./home.jsp" :=
    had (by decide) (by decide)
  obtain ⟨kept, hold⟩ := FlowGraph.transfer_sanitizer_checks_hold graph (.standard ⟨false⟩) 0
    #[page] 1 ⟨.sanitizerCall .normalize, "path.normalize()", .zero, none⟩ .normalize rfl page
    (by cbv) (by cbv) "/pages/./home.jsp" holds
  refine ⟨holds, kept.symm, fun check member => ?_⟩
  have result : SanitizerKind.normalize.result "/pages/./home.jsp" = "/pages/home.jsp" := by decide
  rw [← result]
  refine (hold check member).resolve_right fun endangered => ?_
  rw [show resolved.checks = page.checks from kept, mem_page] at member
  rcases member with rfl | rfl
  · cases endangered with
    | climbs climbing => exact absurd climbing (by decide)
    | dotted dot => exact absurd dot (by decide)
  · cases endangered

end ResolvedPages

end ForwardTaint
