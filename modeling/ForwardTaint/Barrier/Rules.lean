import ForwardTaint.Barrier.Evaluation
import ForwardTaint.Barrier.Literal
import ForwardTaint.Guard.Condition
import ForwardTaint.Taint.Value

/-!
The rules that judge whether a guard protects the value it tests.  A rule looks at the value with
the guard's atoms applied and either reaches a verdict or leaves the question to the next rule.
-/

namespace ForwardTaint

/-- How the dispatcher treats paths. -/
structure BarrierOptions where
  caseInsensitiveDispatch : Bool

/-- All that a rule may look at. -/
structure BarrierInput where
  guard : GuardCondition
  outcome : Bool
  subject : String
  atoms : List GuardAtom
  value : TaintValue
  options : BarrierOptions

/-- A rule: a verdict with its reason, or none. -/
abbrev BarrierJudge := BarrierInput → Option (BarrierVerdict × String)

namespace BarrierInput

/-- The subject between back quotes. -/
def subjectText (input : BarrierInput) : String := "\x60" ++ input.subject ++ "\x60"

/-- Whether the value passed a check of its path. -/
def hasPathCheck (input : BarrierInput) : Bool :=
  input.value.hasAllowPrefix || input.value.hasDenyPrefix
    || decide (Check.noTraversal ∈ input.value.checks)

/-- The checks of the value, or those of the guard when it has none. -/
def describeChecks (input : BarrierInput) : String :=
  let checks := input.value.checks.checks.map Check.text
  String.intercalate " && " (if checks.isEmpty then input.atoms.map GuardAtom.text else checks)

end BarrierInput

namespace BarrierRule

/-- A value that equals a known text is harmless. -/
def judgeExactLiteralMatch : BarrierJudge := fun input =>
  let isKnownEquality (atom : GuardAtom) : Bool :=
    (atom.operator == .equals || atom.operator == .equalsIgnoreCase) && !atom.negated
      && atom.operand.knownValue?.isSome
  (input.atoms.find? isKnownEquality).map fun atom =>
    (.effective, atom.text ++ " bounds " ++ input.subjectText ++ " to the known constant "
      ++ atom.operand.text)

/-- A value that is let through only when it is encoded is not protected. -/
def judgeInvertedEncodingGate : BarrierJudge := fun input =>
  if input.value.processing.encodingSeen then
    some (.ineffective, "branch is reached only when " ++ input.subjectText
      ++ " still contains '%', encoded input proceeds to the sink")
  else none

/-- Normalizing an encoded path leaves its encoded segments. -/
def judgeNormalizeBeforeDecode : BarrierJudge := fun input =>
  if input.value.processing.normalizedBeforeDecode && input.hasPathCheck then
    some (.ineffective, input.subjectText
      ++ " was normalized before decoding, encoded traversal (%2e%2e) survives "
      ++ input.describeChecks)
  else none

/-- A value that was decoded once may still be encoded. -/
def judgeSingleDecode : BarrierJudge := fun input =>
  if input.value.processing.decode = .once ∧ input.hasPathCheck then
    some (.ineffective, input.subjectText
      ++ " was decoded a single time, double encoding bypasses " ++ input.describeChecks)
  else none

/-- A check of a value that was never decoded can be bypassed by encoding. -/
def judgeUndecodedCheck : BarrierJudge := fun input =>
  if input.value.processing.decode = .raw ∧ input.hasPathCheck then
    some (.ineffective, input.subjectText
      ++ " is checked without decoding, encoded input (/%57EB-INF, %2e%2e) bypasses "
      ++ input.describeChecks)
  else none

/-- Whether an atom compares with a beginning that is not in canonical form. -/
def isNonCanonicalPrefix (atom : GuardAtom) : Bool :=
  match atom.operator, atom.operand.knownValue? with
  | .startsWith, some literal => (CanonicalLiteral.ofText literal).changed
  | _, _ => false

/-- A beginning that no decoded value has protects nothing, unless another check of its kind
stands behind it. -/
def judgeNonCanonicalLiteral : BarrierJudge := fun input =>
  let isBacked (atom : GuardAtom) : Bool :=
    if atom.negated then input.value.hasDenyPrefix else input.value.hasAllowPrefix
  (input.atoms.find? fun atom => isNonCanonicalPrefix atom && !isBacked atom).map fun atom =>
    (.ineffective, atom.text
      ++ " compares against an encoded literal that can never match a decoded value")

/-- A deny list that minds case does not stop a dispatcher that does not. -/
def judgeCaseSensitiveDenyList : BarrierJudge := fun input =>
  if input.options.caseInsensitiveDispatch && input.value.hasDenyPrefix
      && !input.value.hasAllowPrefix && !input.value.processing.caseFolded then
    some (.ineffective,
      "deny list on " ++ input.subjectText ++ " is case-sensitive but dispatch is not")
  else none

/-- An allow list protects a decoded value that cannot climb out of it. -/
def judgeCanonicalAllowList : BarrierJudge := fun input =>
  if input.value.processing.decode ≠ .canonical ∨ !input.value.hasAllowPrefix then none
  else if Check.noTraversal ∈ input.value.checks ∨ input.value.processing.normalized then
    some (.effective, "fully decoded " ++ input.subjectText ++ " passes " ++ input.describeChecks)
  else
    some (.partialBarrier, "allow-list prefix on decoded " ++ input.subjectText
      ++ " without a traversal check (/pages/../WEB-INF)")

/-- A deny list protects a decoded value that has no `..` in it. -/
def judgeCanonicalDenyList : BarrierJudge := fun input =>
  if input.value.processing.decode ≠ .canonical then none
  else match input.value.hasDenyPrefix, decide (Check.noTraversal ∈ input.value.checks) with
    | true, true => some (.effective,
        "fully decoded " ++ input.subjectText ++ " passes " ++ input.describeChecks)
    | true, false => some (.partialBarrier,
        "deny list on decoded " ++ input.subjectText ++ " without a traversal check")
    | false, true => some (.partialBarrier, "traversal check on decoded " ++ input.subjectText
        ++ " without an allow or deny list")
    | false, false => none

/-- A value without escapes is not yet a checked one. -/
def judgeEncodingGate : BarrierJudge := fun input =>
  if Check.noEncoding ∈ input.value.checks then
    some (.partialBarrier, input.subjectText
      ++ " is free of encoding markers but not yet checked against an allow or deny list")
  else none

/-- A test that cannot be taken apart protects nothing. -/
def judgeMalformedGuard : BarrierJudge := fun input =>
  if input.atoms.isEmpty && input.guard.isOpaqueFor input.subject then
    some (.ineffective, "\x60" ++ input.guard.text
      ++ "\x60 does not decompose into recognized checks on " ++ input.subjectText)
  else none

/-- The judge of a rule; the rule for the absence of rules has none. -/
def judge? : BarrierRule → Option BarrierJudge
  | .exactLiteralMatch => some judgeExactLiteralMatch
  | .invertedEncodingGate => some judgeInvertedEncodingGate
  | .normalizeBeforeDecode => some judgeNormalizeBeforeDecode
  | .singleDecode => some judgeSingleDecode
  | .undecodedCheck => some judgeUndecodedCheck
  | .nonCanonicalLiteral => some judgeNonCanonicalLiteral
  | .caseSensitiveDenyList => some judgeCaseSensitiveDenyList
  | .canonicalAllowList => some judgeCanonicalAllowList
  | .canonicalDenyList => some judgeCanonicalDenyList
  | .encodingGate => some judgeEncodingGate
  | .malformedGuard => some judgeMalformedGuard
  | .noApplicableRule => none

end BarrierRule

namespace GuardAtom

/-- What a value gains by passing an atom.  A check against a beginning that is not canonical adds
nothing; passing a check for the absence of escapes makes a value canonical. -/
def apply (value : TaintValue) (atom : GuardAtom) : TaintValue :=
  match atom.operator, atom.negated, atom.operand.knownValue? with
  | .startsWith, false, some literal =>
      match CanonicalLiteral.allowKey literal with
      | (start, true) => { value with checks := value.checks.insert (.allowPrefix start) }
      | (_, false) => value
  | .startsWith, true, some literal =>
      match CanonicalLiteral.denyKey literal with
      | (start, true) => { value with checks := value.checks.insert (.denyPrefix start) }
      | (_, false) => value
  | .contains, true, some part =>
      if Text.contains ".." part then
        { value with checks := value.checks.insert .noTraversal }
      else if part = "%" then
        { value with
          checks := value.checks.insert .noEncoding
          processing := { value.processing with decode := .canonical, encodingSeen := false } }
      else value
  | .contains, false, some part =>
      if part = "%" then
        { value with processing := { value.processing with encodingSeen := true } }
      else value
  | .equals, false, some text => { value with checks := value.checks.insert (.exactMatch text) }
  | .equalsIgnoreCase, false, some text =>
      { value with checks := value.checks.insert (.exactMatch (Text.lowercase text)) }
  | _, _, _ => value

/-- What a value gains by passing atoms one after the other. -/
def applyAll (value : TaintValue) (atoms : List GuardAtom) : TaintValue := atoms.foldl apply value

end GuardAtom

end ForwardTaint
