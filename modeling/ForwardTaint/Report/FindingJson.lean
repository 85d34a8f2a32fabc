import ForwardTaint.Program.Json
import ForwardTaint.Report.Finding

/-!
The JSON form of findings.
-/

namespace ForwardTaint

namespace BarrierVerdict

/-- The written names of the verdicts. -/
def choices : List (String × BarrierVerdict) :=
  [effective, ineffective, partialBarrier].map fun verdict => (verdict.text, verdict)

def toJson (verdict : BarrierVerdict) : Json := .string verdict.text

end BarrierVerdict

namespace BarrierRule

/-- The written names of the rules. -/
def choices : List (String × BarrierRule) := all.map fun rule => (rule.id, rule)

def toJson (rule : BarrierRule) : Json := .string rule.id

end BarrierRule

namespace BarrierEvaluation

def toJson (evaluation : BarrierEvaluation) : Json :=
  .object [("verdict", evaluation.verdict.toJson), ("rule", evaluation.rule.toJson),
    ("rationale", .string evaluation.rationale)]

def ofJson? (json : Json) : Option BarrierEvaluation := do
  let fields ← json.fields? ["verdict", "rule", "rationale"]
  return ⟨← fields.required? "verdict" (Json.choice? BarrierVerdict.choices),
    ← fields.required? "rule" (Json.choice? BarrierRule.choices),
    ← fields.required? "rationale" Json.string?⟩

end BarrierEvaluation

namespace AppliedBarrier

def toJson (barrier : AppliedBarrier) : Json :=
  .object [("guard", .ofNat barrier.guard), ("branch", .boolean barrier.outcome),
    ("guard_text", .string barrier.guardText), ("span", barrier.span.toJson),
    ("variable", .string barrier.variableName), ("evaluation", barrier.evaluation.toJson)]

def ofJson? (json : Json) : Option AppliedBarrier := do
  let fields ← json.fields? ["guard", "branch", "guard_text", "span", "variable", "evaluation"]
  return ⟨← fields.required? "guard" Json.count?, ← fields.required? "branch" Json.boolean?,
    ← fields.required? "guard_text" Json.string?, ← fields.required? "span" Span.ofJson?,
    ← fields.required? "variable" Json.string?,
    ← fields.required? "evaluation" BarrierEvaluation.ofJson?⟩

end AppliedBarrier

namespace Verdict

/-- The written names of the verdicts. -/
def choices : List (String × Verdict) :=
  [flagged, suppressedByBarrier].map fun verdict => (verdict.text, verdict)

def toJson (verdict : Verdict) : Json := .string verdict.text

end Verdict

namespace PathStep

def toJson (step : PathStep) : Json :=
  .object [("node", .ofNat step.node), ("kind", .string step.kind), ("text", .string step.text),
    ("span", step.span.toJson)]

def ofJson? (json : Json) : Option PathStep := do
  let fields ← json.fields? ["node", "kind", "text", "span"]
  return ⟨← fields.required? "node" Json.count?, ← fields.required? "kind" Json.string?,
    ← fields.required? "text" Json.string?, ← fields.required? "span" Span.ofJson?⟩

end PathStep

namespace UnstableReason

def toJson : UnstableReason → Json
  | .iterationLimit visits =>
      .object [("reason", .string "iteration_limit"), ("visits", .ofNat visits)]
  | .timeout milliseconds =>
      .object [("reason", .string "timeout"), ("elapsed_ms", .ofNat milliseconds)]
  | .nonMonotone node => .object [("reason", .string "non_monotone"), ("node", .ofNat node)]

def ofJson? (json : Json) : Option UnstableReason := do
  let (reason, record) ← json.tagged? "reason"
  match reason with
  | "iteration_limit" => (record.single? "visits" Json.count?).map .iterationLimit
  | "timeout" => (record.single? "elapsed_ms" Json.count?).map .timeout
  | "non_monotone" => (record.single? "node" Json.count?).map .nonMonotone
  | _ => none

end UnstableReason

namespace Finding

def toJson (finding : Finding) : Json :=
  .object [("procedure", .string finding.procedureName), ("source", finding.source.toJson),
    ("sink", finding.sink.toJson), ("path", .array (finding.path.map PathStep.toJson)),
    ("verdict", finding.verdict.toJson),
    ("barriers", .array (finding.barriers.map AppliedBarrier.toJson)),
    ("unstable", .boolean finding.unstable)]

def ofJson? (json : Json) : Option Finding := do
  let fields ← json.fields?
    ["procedure", "source", "sink", "path", "verdict", "barriers", "unstable"]
  return ⟨← fields.required? "procedure" Json.string?, ← fields.required? "source" PathStep.ofJson?,
    ← fields.required? "sink" PathStep.ofJson?,
    ← fields.required? "path" (Json.list? PathStep.ofJson?),
    ← fields.required? "verdict" (Json.choice? Verdict.choices),
    ← fields.required? "barriers" (Json.list? AppliedBarrier.ofJson?),
    ← fields.required? "unstable" Json.boolean?⟩

end Finding

end ForwardTaint
