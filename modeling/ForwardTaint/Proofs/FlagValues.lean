import ForwardTaint.Proofs.Evaluation
import ForwardTaint.Proofs.FlagBindings

/-!
Flags keep the values of the tests that they stand for.  An execution goes through the outline of a
procedure statement by statement; wherever control comes, each flag that the construction knows there
has the value that its test has in the store of that moment.
-/

namespace ForwardTaint

/-- Each flag stands for a test that does not read the flag, and has the value of the test. -/
structure AliasTable.FitIn (table : AliasTable) (language : Language) (store : Store) : Prop where
  tests : ∀ flag predicate, table.get? flag = some predicate →
    predicate.isPredicate = true ∧ flag ∉ predicate.variableNames
  values : table.HoldIn language store

namespace AliasTable.FitIn

variable {table : AliasTable} {language : Language} {store : Store}

theorem mono {other : AliasTable} (fit : table.FitIn language store) (within : other.Within table) :
    other.FitIn language store where
  tests flag predicate bound := fit.tests flag predicate (within flag predicate bound)
  values flag predicate bound := fit.values flag predicate (within flag predicate bound)

/-- What outlasts a write of a variable fits whatever the variable is given. -/
theorem invalidate (fit : table.FitIn language store) (name : String) (result : Value) :
    (table.invalidate name).FitIn language (store.set name result) := by
  constructor
  · intro flag predicate bound
    exact fit.tests flag predicate (get?_invalidate.1 bound).1
  · intro flag predicate bound
    obtain ⟨old, different, unread⟩ := get?_invalidate.1 bound
    rw [Language.eval_set (fun member => unread (Names.mem_distinct.2 member)),
      fit.values flag predicate old, Store.set, if_neg different]

/-- A flag that is given the value of a test has it. -/
theorem assign (fit : table.FitIn language store) {name : String} {value : Expr} {result : Value}
    (evaluated : language.eval store value = some result) :
    (table.assign name value).FitIn language (store.set name result) := by
  constructor
  · intro flag predicate bound
    rcases get?_assign.1 bound with ⟨rfl, rfl, isTest⟩ | old
    · exact isTest
    · exact (fit.invalidate name result).tests flag predicate old
  · intro flag predicate bound
    rcases get?_assign.1 bound with ⟨rfl, rfl, -, unread⟩ | old
    · rw [Language.eval_set (fun member => unread (Names.mem_distinct.2 member)), evaluated,
        Store.set, if_pos rfl]
    · exact (fit.invalidate name result).values flag predicate old

end AliasTable.FitIn

/-- What runs next: statements, or a loop from its test on. -/
inductive ProgramPoint where
  | before (course : Course)
  | atHead (test : Expr) (head : Environment) (body : Course)

namespace ProgramPoint

/-- What the construction knows where this runs. -/
def environment : ProgramPoint → Environment
  | .before course => course.start
  | .atHead _ head _ => head

/-- What the construction knows behind all that runs here. -/
def atEnd : ProgramPoint → Environment
  | .before course => course.atEnd
  | .atHead _ head _ => head

end ProgramPoint

/-- What runs next and what runs behind it, the innermost first, with the values of the variables. -/
structure Execution where
  points : List ProgramPoint
  store : Store

namespace Language

variable (language : Language)

/-- One step of an execution.  A variable that is declared without a value has any value.  Control
leaves the procedure at a return, and does not enter attempts. -/
inductive Step : Execution → Execution → Prop
  | evaluate {environment : Environment} {expr : Expr} {value : Value} {rest : Course}
      {outer : List ProgramPoint} {store : Store}
      (evaluated : language.eval store expr = some value) :
      Step ⟨.before (.step environment (.evaluate expr) rest) :: outer, store⟩
        ⟨.before rest :: outer, store⟩
  | assign {environment : Environment} {name : String} {expr : Expr} {value : Value}
      {rest : Course} {outer : List ProgramPoint} {store : Store}
      (evaluated : language.eval store expr = some value) :
      Step ⟨.before (.step environment (.assign name expr) rest) :: outer, store⟩
        ⟨.before rest :: outer, store.set name value⟩
  | forget {environment : Environment} {name : String} {value : Value} {rest : Course}
      {outer : List ProgramPoint} {store : Store} :
      Step ⟨.before (.step environment (.forget name) rest) :: outer, store⟩
        ⟨.before rest :: outer, store.set name value⟩
  | accept {environment : Environment} {test : Expr} {guard : Nat} {accepted rejected rest : Course}
      {outer : List ProgramPoint} {store : Store} (isTrue : language.test store test = some true) :
      Step ⟨.before (.step environment (.branch test guard accepted rejected) rest) :: outer, store⟩
        ⟨.before accepted :: .before rest :: outer, store⟩
  | reject {environment : Environment} {test : Expr} {guard : Nat} {accepted rejected rest : Course}
      {outer : List ProgramPoint} {store : Store} (isFalse : language.test store test = some false) :
      Step ⟨.before (.step environment (.branch test guard accepted rejected) rest) :: outer, store⟩
        ⟨.before rejected :: .before rest :: outer, store⟩
  | loop {environment head : Environment} {test : Expr} {guard : Nat} {body rest : Course}
      {outer : List ProgramPoint} {store : Store} :
      Step ⟨.before (.step environment (.loop test guard head body) rest) :: outer, store⟩
        ⟨.atHead test head body :: .before rest :: outer, store⟩
  | again {head : Environment} {test : Expr} {body : Course} {outer : List ProgramPoint}
      {store : Store} (isTrue : language.test store test = some true) :
      Step ⟨.atHead test head body :: outer, store⟩
        ⟨.before body :: .atHead test head body :: outer, store⟩
  | leave {head : Environment} {test : Expr} {body : Course} {outer : List ProgramPoint}
      {store : Store} (isFalse : language.test store test = some false) :
      Step ⟨.atHead test head body :: outer, store⟩ ⟨outer, store⟩
  | block {environment : Environment} {body rest : Course} {outer : List ProgramPoint}
      {store : Store} :
      Step ⟨.before (.step environment (.block body) rest) :: outer, store⟩
        ⟨.before body :: .before rest :: outer, store⟩
  | done {environment : Environment} {outer : List ProgramPoint} {store : Store} :
      Step ⟨.before (.done environment) :: outer, store⟩ ⟨outer, store⟩
  | return {environment : Environment} {value : Option Expr} {rest : Course}
      {outer : List ProgramPoint} {store : Store} :
      Step ⟨.before (.step environment (.return value) rest) :: outer, store⟩ ⟨[], store⟩

/-- Any number of steps. -/
def Runs : Execution → Execution → Prop := Relation.ReflTransGen language.Step

end Language

/-- Control that comes to the first environment comes to the second one, with no more flags. -/
def Environment.LeadsTo (before after : Environment) : Prop :=
  before.reachable = true → after.reachable = true ∧ after.aliases.Within before.aliases

theorem Environment.Continues.leadsTo {before after : Environment}
    (continues : before.Continues after) : before.LeadsTo after := by
  intro isReachable
  rw [continues.reachable, continues.aliases]
  exact ⟨isReachable, fun _ _ => id⟩

theorem Environment.leadsTo_of_eq {before after : Environment} (same : after = before) :
    before.LeadsTo after := by
  rw [same]
  exact fun isReachable => ⟨isReachable, fun _ _ => id⟩

theorem Environment.Meets.leadsTo {environments : List Environment} {environment after : Environment}
    (meets : Environment.Meets environments after) (member : environment ∈ environments) :
    environment.LeadsTo after := by
  intro isReachable
  have comes := meets.reachable.2 ⟨environment, member, isReachable⟩
  refine ⟨comes, fun flag predicate bound => ?_⟩
  exact (meets.aliases comes flag predicate).1 bound environment member isReachable

/-- The construction treats the flags of what runs as the outline says; the end of a loop's body
leads back to its head. -/
inductive ProgramPoint.IsBound : ProgramPoint → Prop
  | before {stmts : List Stmt} {course : Course} (binds : course.Binds stmts) :
      ProgramPoint.IsBound (.before course)
  | atHead {stmts : List Stmt} {test : Expr} {head : Environment} {body : Course}
      (enters : head.Continues body.start) (binds : body.Binds stmts)
      (again : body.atEnd.LeadsTo head) : ProgramPoint.IsBound (.atHead test head body)

/-- The environment leads to what runs behind it. -/
inductive Environment.Resumes : Environment → List ProgramPoint → Prop
  | nothing {environment : Environment} : Environment.Resumes environment []
  | next {environment : Environment} {point : ProgramPoint} {outer : List ProgramPoint}
      (leads : environment.LeadsTo point.environment) (isBound : point.IsBound)
      (resumes : point.atEnd.Resumes outer) : Environment.Resumes environment (point :: outer)

/-- Control may be where the execution is, and the flags that are known there fit its store. -/
inductive Execution.IsSound (language : Language) : Execution → Prop
  | stopped {store : Store} : Execution.IsSound language ⟨[], store⟩
  | running {point : ProgramPoint} {outer : List ProgramPoint} {store : Store}
      (comes : point.environment.reachable = true)
      (fits : point.environment.aliases.FitIn language store) (isBound : point.IsBound)
      (resumes : point.atEnd.Resumes outer) : Execution.IsSound language ⟨point :: outer, store⟩

/-- What runs behind a place where control is runs soundly. -/
theorem Environment.Resumes.isSound {language : Language} {environment : Environment}
    {outer : List ProgramPoint} {store : Store} (resumes : environment.Resumes outer)
    (comes : environment.reachable = true) (fits : environment.aliases.FitIn language store) :
    Execution.IsSound language ⟨outer, store⟩ := by
  cases resumes with
  | nothing => exact .stopped
  | next leads isBound resumes =>
      obtain ⟨comes, within⟩ := leads comes
      exact .running comes (fits.mono within) isBound resumes

/-- The flags at the head of a loop are flags before it. -/
theorem Environment.head_within {before head : Environment} {stmts : List Stmt}
    (aliases : head.aliases = AliasTable.atLoopHead before.aliases (AliasTable.after stmts)) :
    head.aliases.Within before.aliases := by
  rw [aliases]
  exact AliasTable.atLoopHead_within_entry (AliasTable.after_mono stmts) before.aliases

/-- The end of a loop's body leads to the head: the flags at the head were chosen to hold there. -/
theorem Environment.leadsTo_head {before head : Environment} {body : Course} {stmts : List Stmt}
    (aliases : head.aliases = AliasTable.atLoopHead before.aliases (AliasTable.after stmts))
    (enters : head.Continues body.start) (binds : body.Binds stmts) : body.atEnd.LeadsTo head := by
  intro isReachable
  obtain ⟨comes, keeps⟩ := binds.keeps isReachable
  rw [enters.reachable] at comes
  rw [enters.aliases] at keeps
  have fixed : head.aliases.Within (AliasTable.after stmts head.aliases) := by
    rw [aliases]
    exact AliasTable.atLoopHead_within_end (AliasTable.after_mono stmts) before.aliases
  exact ⟨comes, fixed.trans (keeps fun _ _ => id)⟩

/-- Control that goes on with the same flags may be where it comes to, and the flags fit. -/
theorem Environment.Continues.fits {language : Language} {before after : Environment} {store : Store}
    (continues : before.Continues after) (comes : before.reachable = true)
    (fits : before.aliases.FitIn language store) :
    after.reachable = true ∧ after.aliases.FitIn language store := by
  rw [continues.reachable, continues.aliases]
  exact ⟨comes, fits⟩

theorem Environment.Stores.fits {language : Language} {before after : Environment} {store : Store}
    {name : String} {expr : Expr} {value : Value} (stores : before.Stores name expr after)
    (evaluated : language.eval store expr = some value) (comes : before.reachable = true)
    (fits : before.aliases.FitIn language store) :
    after.reachable = true ∧ after.aliases.FitIn language (store.set name value) := by
  rw [stores.reachable, stores.aliases]
  exact ⟨comes, fits.assign evaluated⟩

/-- An outline of an assignment gives the variable the value. -/
theorem Outline.Binds.stores {before after : Environment} {stmt : Stmt} {name : String}
    {value : Expr} (binds : Outline.Binds before stmt (.assign name value) after) :
    before.Stores name value after := by
  cases binds with
  | initial stores => exact stores
  | assign stores => exact stores

/-- What is known where a statement runs next. -/
theorem Execution.IsSound.before_step {language : Language} {environment : Environment}
    {outline : Outline} {rest : Course} {outer : List ProgramPoint} {store : Store}
    (sound : Execution.IsSound language ⟨.before (.step environment outline rest) :: outer, store⟩) :
    environment.reachable = true ∧ environment.aliases.FitIn language store ∧
      ∃ stmt stmts, Outline.Binds environment stmt outline rest.start ∧ rest.Binds stmts ∧
        rest.atEnd.Resumes outer := by
  cases sound with
  | running comes fits isBound resumes =>
      cases isBound with
      | before binds =>
          cases binds with
          | step bindsFirst bindsRest =>
              exact ⟨comes, fits, _, _, bindsFirst, bindsRest, resumes⟩

/-- A step keeps an execution sound. -/
theorem Language.Step.isSound {language : Language} {execution next : Execution}
    (step : language.Step execution next) (sound : execution.IsSound language) :
    next.IsSound language := by
  cases step with
  | evaluate evaluated =>
      obtain ⟨comes, fits, stmt, stmts, bindsFirst, bindsRest, resumes⟩ := sound.before_step
      cases bindsFirst with
      | evaluate same =>
          rw [← same] at comes fits
          exact .running comes fits (.before bindsRest) resumes
  | assign evaluated =>
      obtain ⟨comes, fits, stmt, stmts, bindsFirst, bindsRest, resumes⟩ := sound.before_step
      obtain ⟨comes, fits⟩ := bindsFirst.stores.fits evaluated comes fits
      exact .running comes fits (.before bindsRest) resumes
  | forget =>
      obtain ⟨comes, fits, stmt, stmts, bindsFirst, bindsRest, resumes⟩ := sound.before_step
      rename_i environment name value rest outer store
      cases bindsFirst with
      | declare forgets =>
          have fits' : rest.start.aliases.FitIn language (store.set name value) := by
            rw [forgets]
            exact fits.invalidate name value
          have comes' : rest.start.reachable = true := by
            rw [forgets]
            exact comes
          exact .running comes' fits' (.before bindsRest) resumes
  | accept isTrue =>
      obtain ⟨comes, fits, stmt, stmts, bindsFirst, bindsRest, resumes⟩ := sound.before_step
      cases bindsFirst with
      | branch entersTrue bindsTrue entersFalse bindsFalse meets =>
          obtain ⟨comes, fits⟩ := entersTrue.fits comes fits
          have leads := meets.leadsTo List.mem_cons_self
          exact .running comes fits (.before bindsTrue) (.next leads (.before bindsRest) resumes)
  | reject isFalse =>
      obtain ⟨comes, fits, stmt, stmts, bindsFirst, bindsRest, resumes⟩ := sound.before_step
      cases bindsFirst with
      | branch entersTrue bindsTrue entersFalse bindsFalse meets =>
          obtain ⟨comes, fits⟩ := entersFalse.fits comes fits
          have leads := meets.leadsTo (List.mem_cons_of_mem _ (List.mem_singleton_self _))
          exact .running comes fits (.before bindsFalse) (.next leads (.before bindsRest) resumes)
  | loop =>
      obtain ⟨comes, fits, stmt, stmts, bindsFirst, bindsRest, resumes⟩ := sound.before_step
      cases bindsFirst with
      | loop aliases reachable enters bindsBody leaves =>
          rw [← reachable] at comes
          have fewer := Environment.head_within aliases
          have again := Environment.leadsTo_head aliases enters bindsBody
          exact .running comes (fits.mono fewer) (.atHead enters bindsBody again)
            (.next leaves.leadsTo (.before bindsRest) resumes)
  | again isTrue =>
      cases sound with
      | running comes fits isBound resumes =>
          cases isBound with
          | atHead enters binds again =>
              obtain ⟨comes', fits'⟩ := enters.fits comes fits
              exact .running comes' fits' (.before binds)
                (.next again (.atHead enters binds again) resumes)
  | leave isFalse =>
      cases sound with
      | running comes fits isBound resumes => exact resumes.isSound comes fits
  | block =>
      obtain ⟨comes, fits, stmt, stmts, bindsFirst, bindsRest, resumes⟩ := sound.before_step
      cases bindsFirst with
      | block enters bindsBody leaves =>
          rw [← enters] at comes fits
          exact .running comes fits (.before bindsBody)
            (.next (Environment.leadsTo_of_eq leaves) (.before bindsRest) resumes)
  | done =>
      cases sound with
      | running comes fits isBound resumes => exact resumes.isSound comes fits
  | «return» => exact .stopped

/-- An execution that begins soundly stays sound. -/
theorem Language.Runs.isSound {language : Language} {execution final : Execution}
    (runs : language.Runs execution final) (sound : execution.IsSound language) :
    final.IsSound language := by
  induction runs with
  | refl => exact sound
  | tail _ step inductionHypothesis => exact step.isSound inductionHypothesis

/-- Where a sound execution is, the flags have the values of their tests. -/
theorem Execution.IsSound.fits {language : Language} {execution : Execution}
    (sound : execution.IsSound language) {point : ProgramPoint}
    (isNext : execution.points.head? = some point) :
    point.environment.aliases.FitIn language execution.store := by
  cases sound with
  | stopped => exact nomatch isNext
  | running comes fits =>
      rw [← Option.some.inj isNext]
      exact fits

/-- Wherever control comes in a procedure, each flag that the construction knows there stands for a
test that does not read the flag, and has the value of the test in the store of that moment:
whatever calls answer, with whatever values the execution begins. -/
theorem FlowGraph.build_flags_fit {catalog : Catalog} {unitConstants : StringMap String}
    {procedure : Procedure} {graph : FlowGraph}
    (built : build catalog unitConstants procedure = .ok graph) :
    ∃ course, outline catalog unitConstants procedure = .ok (course, graph) ∧
      course.Shows procedure.body ∧
      ∀ (language : Language) (initial : Store) (execution : Execution),
        language.Runs ⟨[.before course], initial⟩ execution →
        ∀ point, execution.points.head? = some point →
          point.environment.aliases.FitIn language execution.store := by
  obtain ⟨course, final, outlined, ends, -⟩ := outline_of_build built
  unfold Build.outlineProcedure at ends
  obtain ⟨environment, draft, starts, ends⟩ := Build.bind_ok.1 ends
  have continues := Build.addParameters_continues starts
  have shows := Build.outlineAll_shows procedure.body ends
  obtain ⟨rfl, binds⟩ := Build.outlineAll_binds procedure.body ends
  refine ⟨course, outlined, shows, fun language initial execution runs point isNext => ?_⟩
  have fits : course.start.aliases.FitIn language initial := by
    rw [continues.aliases]
    exact ⟨nofun, nofun⟩
  have sound : Execution.IsSound language ⟨[.before course], initial⟩ :=
    .running continues.reachable fits (.before binds) .nothing
  exact (runs.isSound sound).fits isNext

/-! A procedure that asks once whether a path is public, and forwards to it while the flag says so. -/

namespace PublicForward

def predicate : Expr := .methodCall (.variable "path") "startsWith" [.literal "/public"]

def procedure : Procedure :=
  { Procedure.named "serve" with
    body := [
      .declare "path" none (some (.localCall "getParameter" [])) .zero,
      .declare "isPublic" none (some predicate) .zero,
      .loop (.variable "isPublic") [.evaluate (.localCall "forward" [.variable "path"]) .zero] .zero] }

def guard : GuardCondition where
  id := 0
  text := "isPublic"
  span := .zero
  onTrue := [⟨"path", .startsWith, .literal "/public", false⟩]
  onFalse := [⟨"path", .startsWith, .literal "/public", true⟩]
  opaqueSubjects := []
  flagName := some "isPublic"

def graph : FlowGraph where
  procedureName := "serve"
  nodes := #[
    ⟨.sourceCall, "getParameter()", .zero, none⟩,
    ⟨.variableRef, "path = getParameter()", .zero, some "path"⟩,
    ⟨.literal, "/public", .zero, none⟩,
    ⟨.call, "path.startsWith(\"/public\")", .zero, none⟩,
    ⟨.variableRef, "isPublic = path.startsWith(\"/public\")", .zero, some "isPublic"⟩,
    ⟨.guard 0 true, "isPublic [true]", .zero, some "path"⟩,
    ⟨.sinkCall [0], "forward(path)", .zero, none⟩,
    ⟨.guard 0 false, "isPublic [false]", .zero, some "path"⟩]
  edges := [
    ⟨1, 7, .refinement 0 false⟩, ⟨5, 6, .plain (.argument 0)⟩, ⟨1, 5, .refinement 0 true⟩,
    ⟨3, 4, .plain .assign⟩, ⟨2, 3, .plain (.argument 0)⟩, ⟨1, 3, .plain .receiver⟩,
    ⟨0, 1, .plain .assign⟩]
  guards := #[guard]
  sources := [0]
  sinks := [6]

/-- The environment behind the first assignment. -/
def unflagged : Environment := ⟨StringMap.empty.insert "path" 1, .empty, true⟩

/-- The environment in which a node holds the path, and the flag stands for its test. -/
def flagged (node : Nat) : Environment where
  definitions := (StringMap.empty.insert "path" node).insert "isPublic" 4
  aliases := StringMap.empty.insert "isPublic" predicate
  reachable := true

def round : Course :=
  .step (flagged 5) (.evaluate (.localCall "forward" [.variable "path"])) (.done (flagged 5))

def loop : Course :=
  .step (flagged 1) (.loop (.variable "isPublic") 0 (flagged 1) round) (.done (flagged 7))

def course : Course :=
  .step .entry (.assign "path" (.localCall "getParameter" []))
    (.step unflagged (.assign "isPublic" predicate) loop)

theorem outline_eq : FlowGraph.outline DecodingLoop.catalog .empty procedure = .ok (course, graph) := by
  cbv

theorem build_eq : FlowGraph.build DecodingLoop.catalog .empty procedure = .ok graph := by
  rw [← FlowGraph.outline_eq, outline_eq]
  rfl

/-- A language in which the parameter is a path and all checks succeed. -/
def language : Language where
  call _ _ method _ := if method = "getParameter" then some (.text "/public/x") else some (.truth true)
  construct _ _ := none
  concat _ := none
  same _ _ := false

/-- The values of the variables at the head of the loop. -/
def store : Store :=
  (Store.set (fun _ => .null) "path" (.text "/public/x")).set "isPublic" (.truth true)

/-- The execution at the head of the loop. -/
def atHead : Execution :=
  ⟨[.atHead (.variable "isPublic") (flagged 1) round, .before (.done (flagged 7))], store⟩

/-- The flag has the value of its test when the body of the loop has run. -/
theorem flag_fits_after_round :
    language.Runs ⟨[.before course], fun _ => .null⟩ atHead ∧ language.Runs atHead atHead ∧
      (flagged 1).aliases.get? "isPublic" = some predicate ∧
      language.eval store predicate = some (store "isPublic") := by
  have enters : language.Runs ⟨[.before course], fun _ => .null⟩ atHead :=
    .head (.assign rfl) (.head (.assign rfl) (.head .loop .refl))
  have goesRound : language.Runs atHead atHead :=
    .head (.again rfl) (.head (.evaluate rfl) (.head .done .refl))
  obtain ⟨other, outlined, -, fits⟩ := FlowGraph.build_flags_fit build_eq
  obtain rfl : course = other := (Prod.mk.inj (Except.ok.inj (outline_eq.symm.trans outlined))).1
  have bound : (flagged 1).aliases.get? "isPublic" = some predicate := by decide
  exact ⟨enters, goesRound, bound,
    (fits language _ atHead (enters.trans goesRound) _ rfl).values "isPublic" predicate bound⟩

end PublicForward

end ForwardTaint
