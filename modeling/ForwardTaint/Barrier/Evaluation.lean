/-!
Verdicts on guards and the rules that reach them.
-/

namespace ForwardTaint

/-- What a guard does to a value; a partial one narrows it and leaves a known bypass open. -/
inductive BarrierVerdict where
  | effective
  | ineffective
  | partialBarrier
  deriving DecidableEq

namespace BarrierVerdict

def isEffective (verdict : BarrierVerdict) : Bool := verdict == .effective

def text : BarrierVerdict → String
  | .effective => "EFFECTIVE"
  | .ineffective => "INEFFECTIVE"
  | .partialBarrier => "PARTIAL"

end BarrierVerdict

/-- The rule that decides an evaluation. -/
inductive BarrierRule where
  | exactLiteralMatch
  | invertedEncodingGate
  | normalizeBeforeDecode
  | singleDecode
  | undecodedCheck
  | nonCanonicalLiteral
  | caseSensitiveDenyList
  | canonicalAllowList
  | canonicalDenyList
  | encodingGate
  | malformedGuard
  | noApplicableRule
  deriving DecidableEq

namespace BarrierRule

/-- The rules in the order in which they are tried. -/
def all : List BarrierRule :=
  [exactLiteralMatch, invertedEncodingGate, normalizeBeforeDecode, singleDecode, undecodedCheck,
    nonCanonicalLiteral, caseSensitiveDenyList, canonicalAllowList, canonicalDenyList,
    encodingGate, malformedGuard, noApplicableRule]

/-- The order in which rules are tried, the lowest first. -/
def priority : BarrierRule → Nat
  | .exactLiteralMatch => 1
  | .invertedEncodingGate => 2
  | .normalizeBeforeDecode => 3
  | .singleDecode => 4
  | .undecodedCheck => 5
  | .nonCanonicalLiteral => 6
  | .caseSensitiveDenyList => 7
  | .canonicalAllowList => 8
  | .canonicalDenyList => 9
  | .encodingGate => 10
  | .malformedGuard => 11
  | .noApplicableRule => 255

/-- The name of the rule. -/
def id : BarrierRule → String
  | .exactLiteralMatch => "EXACT_LITERAL_MATCH"
  | .invertedEncodingGate => "INVERTED_ENCODING_GATE"
  | .normalizeBeforeDecode => "NORMALIZE_BEFORE_DECODE"
  | .singleDecode => "SINGLE_DECODE"
  | .undecodedCheck => "UNDECODED_CHECK"
  | .nonCanonicalLiteral => "NON_CANONICAL_LITERAL"
  | .caseSensitiveDenyList => "CASE_SENSITIVE_DENY_LIST"
  | .canonicalAllowList => "CANONICAL_ALLOW_LIST"
  | .canonicalDenyList => "CANONICAL_DENY_LIST"
  | .encodingGate => "ENCODING_GATE"
  | .malformedGuard => "MALFORMED_GUARD"
  | .noApplicableRule => "NO_APPLICABLE_RULE"

end BarrierRule

/-- A verdict with the rule that reached it and the reason. -/
structure BarrierEvaluation where
  verdict : BarrierVerdict
  rule : BarrierRule
  rationale : String
  deriving DecidableEq

end ForwardTaint
