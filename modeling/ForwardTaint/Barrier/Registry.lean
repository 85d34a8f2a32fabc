import ForwardTaint.Barrier.Rules

/-!
The rules that apply to a guard, by the checks that it makes and by how far the checked value was
decoded.  They are tried in the order of their priority, and the first verdict counts.
-/

namespace ForwardTaint

/-- What rules are registered for: a check, or a guard that was not understood. -/
inductive CheckOperator where
  | check (operator : GuardOperator)
  | unrecognized
  deriving DecidableEq

/-- How far the checked value was decoded, and whether it was normalized before that. -/
inductive DecodeContext where
  | raw
  | once
  | canonical
  | normalizedRaw
  deriving DecidableEq

namespace DecodeContext

def all : List DecodeContext := [raw, once, canonical, normalizedRaw]

/-- The context of a value with a given history. -/
def ofProcessing (processing : Processing) : DecodeContext :=
  match processing.decode with
  | .canonical => .canonical
  | .once => if processing.normalizedBeforeDecode then .normalizedRaw else .once
  | .raw => if processing.normalizedBeforeDecode then .normalizedRaw else .raw

def text : DecodeContext → String
  | .raw => "Raw"
  | .once => "Once"
  | .canonical => "Canonical"
  | .normalizedRaw => "NormalizedRaw"

end DecodeContext

/-- A rule with the judge it was registered with. -/
structure RegisteredRule where
  rule : BarrierRule
  judge : BarrierJudge

namespace RegisteredRule

/-- The rules by increasing priority; those of one priority keep their order. -/
def byPriority (rules : List RegisteredRule) : List RegisteredRule :=
  rules.mergeSort fun first second => decide (first.rule.priority ≤ second.rule.priority)

/-- Adds a rule at the end unless it is there. -/
def addNew (rules : List RegisteredRule) (registered : RegisteredRule) : List RegisteredRule :=
  if rules.any fun known => known.rule == registered.rule then rules else rules ++ [registered]

end RegisteredRule

/-- A rule registered for a check in a context. -/
structure Registration where
  operator : CheckOperator
  context : DecodeContext
  registered : RegisteredRule

/-- The registrations in the order in which they were made. -/
structure BarrierRegistry where
  registrations : List Registration
  options : BarrierOptions

namespace BarrierRegistry

/-- The registry without rules. -/
def empty (options : BarrierOptions) : BarrierRegistry := ⟨[], options⟩

/-- Registers a rule for a check in a context; it has no effect when the rule is there already. -/
def register (registry : BarrierRegistry) (operator : CheckOperator) (context : DecodeContext)
    (registered : RegisteredRule) : BarrierRegistry :=
  { registry with
    registrations := registry.registrations ++ [⟨operator, context, registered⟩] }

/-- The rules for a check in a context by increasing priority. -/
def rules (registry : BarrierRegistry) (operator : CheckOperator) (context : DecodeContext) :
    List RegisteredRule :=
  let here := registry.registrations.filter fun registration =>
    registration.operator == operator && registration.context == context
  RegisteredRule.byPriority ((here.map Registration.registered).foldl RegisteredRule.addNew [])

/-- Registers a rule with its own judge for checks in contexts. -/
def registerAll (registry : BarrierRegistry) (rule : BarrierRule) (operators : List CheckOperator)
    (contexts : List DecodeContext) : BarrierRegistry :=
  match rule.judge? with
  | none => registry
  | some judge =>
      operators.foldl (fun registry operator =>
        contexts.foldl (fun registry context => registry.register operator context ⟨rule, judge⟩)
          registry) registry

/-- The registry of the rules for forwarded paths. -/
def standard (options : BarrierOptions) : BarrierRegistry :=
  let paths : List CheckOperator := [.check .startsWith, .check .contains]
  let equalities : List CheckOperator := [.check .equals, .check .equalsIgnoreCase]
  ((((((((((empty options
    ).registerAll .exactLiteralMatch equalities DecodeContext.all
    ).registerAll .invertedEncodingGate (paths ++ equalities) [.raw, .once, .normalizedRaw]
    ).registerAll .normalizeBeforeDecode paths [.normalizedRaw]
    ).registerAll .singleDecode paths [.once]
    ).registerAll .undecodedCheck paths [.raw]
    ).registerAll .nonCanonicalLiteral paths DecodeContext.all
    ).registerAll .caseSensitiveDenyList paths [.canonical]
    ).registerAll .canonicalAllowList paths [.canonical]
    ).registerAll .canonicalDenyList paths [.canonical]
    ).registerAll .encodingGate [.check .contains] [.canonical]
    |>.registerAll .malformedGuard [.unrecognized] DecodeContext.all

/-- The checks of atoms; a guard without atoms was not understood. -/
def operatorsOf (atoms : List GuardAtom) : List CheckOperator :=
  if atoms.isEmpty then [.unrecognized] else atoms.map fun atom => .check atom.operator

/-- The rules that are tried for atoms in a context; of a rule that is registered for several
checks the first one counts. -/
def candidates (registry : BarrierRegistry) (atoms : List GuardAtom) (context : DecodeContext) :
    List RegisteredRule :=
  RegisteredRule.byPriority (((operatorsOf atoms).flatMap fun operator =>
    registry.rules operator context).foldl RegisteredRule.addNew [])

/-- Judges what a guard does to a value with its atoms applied. -/
def evaluate (registry : BarrierRegistry) (guard : GuardCondition) (outcome : Bool)
    (subject : String) (atoms : List GuardAtom) (value : TaintValue) : BarrierEvaluation :=
  let input : BarrierInput := ⟨guard, outcome, subject, atoms, value, registry.options⟩
  let candidates := registry.candidates atoms (.ofProcessing value.processing)
  let judged (registered : RegisteredRule) : Option BarrierEvaluation :=
    (registered.judge input).map fun (verdict, rationale) => ⟨verdict, registered.rule, rationale⟩
  (candidates.findSome? judged).getD ⟨.ineffective, .noApplicableRule,
    "no barrier rule applies to \x60" ++ guard.text ++ "\x60 on " ++ input.subjectText⟩

end BarrierRegistry

end ForwardTaint
