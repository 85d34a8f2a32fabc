import ForwardTaint.Proofs.ExecutionOrder

/-!
What the procedures of a unit have to do with each other: nothing, unless two have one signature.  Then
the report on the later one says where the first one stands.
-/

namespace ForwardTaint

namespace CompilationUnit

/-- The signature of the procedure at an index. -/
def signature? (compilationUnit : CompilationUnit) (index : Nat) : Option String :=
  compilationUnit.procedures[index]?.map Procedure.signature

/-- No procedure before the index has the signature of the one there. -/
def IsNew (compilationUnit : CompilationUnit) (index : Nat) : Prop :=
  ∀ earlier < index, compilationUnit.signature? earlier ≠ compilationUnit.signature? index

/-- The first procedure with the signature of the one at an index stands before it. -/
structure Repeats (compilationUnit : CompilationUnit) (index first : Nat) : Prop where
  before : first < index
  same : compilationUnit.signature? first = compilationUnit.signature? index
  isNew : compilationUnit.IsNew first

/-- The procedures before an index that have a signature. -/
def namesakes (compilationUnit : CompilationUnit) (signature : String) (index : Nat) :
    List Procedure :=
  (compilationUnit.procedures.take index).filter fun procedure => procedure.signature == signature

variable {compilationUnit : CompilationUnit} {index first : Nat} {procedure : Procedure}

theorem signature?_eq (present : compilationUnit.procedures[index]? = some procedure) :
    compilationUnit.signature? index = some procedure.signature := by
  rw [signature?, present, Option.map_some]

theorem isNew_or_repeats (compilationUnit : CompilationUnit) (index : Nat) :
    compilationUnit.IsNew index ∨ ∃ first, compilationUnit.Repeats index first := by
  by_cases isNew : compilationUnit.IsNew index
  · exact .inl isNew
  · unfold IsNew at isNew
    push Not at isNew
    have least := Nat.find_spec isNew
    refine .inr ⟨Nat.find isNew, least.1, least.2, ?_⟩
    intro earlier before same
    exact Nat.find_min isNew before ⟨before.trans least.1, same.trans least.2⟩

/-- The signatures before an index are those of the procedures there. -/
theorem getElem?_signatures (compilationUnit : CompilationUnit) {earlier : Nat}
    (before : earlier < index) :
    ((compilationUnit.procedures.take index).map Procedure.signature)[earlier]? =
      compilationUnit.signature? earlier := by
  rw [List.getElem?_map, List.getElem?_take_of_lt before, signature?]

theorem isNew_iff (present : compilationUnit.procedures[index]? = some procedure) :
    compilationUnit.IsNew index ↔
      procedure.signature ∉ (compilationUnit.procedures.take index).map Procedure.signature := by
  rw [IsNew, signature?_eq present, List.mem_iff_getElem?]
  push Not
  constructor
  · intro isNew earlier same
    by_cases before : earlier < index
    · rw [getElem?_signatures compilationUnit before] at same
      exact isNew earlier before same
    · rw [List.getElem?_eq_none] at same
      · exact nomatch same
      · rw [List.length_map, List.length_take]
        omega
  · intro isNew earlier before same
    rw [← getElem?_signatures compilationUnit before] at same
    exact isNew earlier same

theorem declaredBefore?_of_isNew (present : compilationUnit.procedures[index]? = some procedure)
    (isNew : compilationUnit.IsNew index) : compilationUnit.declaredBefore? index = none := by
  rw [declaredBefore?_eq present, List.idxOf?_eq_none_iff]
  exact (isNew_iff present).1 isNew

/-- Where a signature is repeated, it is found first where it is new. -/
theorem declaredBefore?_of_repeats (present : compilationUnit.procedures[index]? = some procedure)
    (repeats : compilationUnit.Repeats index first) :
    compilationUnit.declaredBefore? index = some first := by
  obtain ⟨before, same, isNew⟩ := repeats
  have there := getElem?_signatures compilationUnit before
  rw [same, signature?_eq present, List.getElem?_eq_some_iff] at there
  obtain ⟨inside, isThere⟩ := there
  rw [declaredBefore?_eq present, List.idxOf?_eq_some_iff]
  refine ⟨inside, isThere, ?_⟩
  intro earlier earlierBefore equal
  apply isNew earlier earlierBefore
  have there := getElem?_signatures compilationUnit (earlierBefore.trans before)
  rw [same, signature?_eq present, ← there,
    List.getElem?_eq_getElem (earlierBefore.trans inside), equal]

theorem isNew_iff_namesakes (present : compilationUnit.procedures[index]? = some procedure) :
    compilationUnit.IsNew index ↔ compilationUnit.namesakes procedure.signature index = [] := by
  rw [isNew_iff present, namesakes, List.filter_eq_nil_iff, List.mem_map]
  push Not
  simp only [beq_iff_eq, ne_eq]

/-- With the same procedures of its signature before it, a procedure is new in both of two units or in
neither. -/
theorem isNew_iff_isNew {other : CompilationUnit} {otherIndex : Nat}
    (present : compilationUnit.procedures[index]? = some procedure)
    (otherPresent : other.procedures[otherIndex]? = some procedure)
    (same : other.namesakes procedure.signature otherIndex =
      compilationUnit.namesakes procedure.signature index) :
    other.IsNew otherIndex ↔ compilationUnit.IsNew index := by
  rw [isNew_iff_namesakes otherPresent, same, isNew_iff_namesakes present]

/-- What is repeated is the first procedure of the signature. -/
theorem head?_namesakes (present : compilationUnit.procedures[index]? = some procedure)
    (repeats : compilationUnit.Repeats index first) :
    (compilationUnit.namesakes procedure.signature index).head? =
      compilationUnit.procedures[first]? := by
  obtain ⟨before, same, isNew⟩ := repeats
  rw [signature?_eq present, signature?, Option.map_eq_some_iff] at same
  obtain ⟨declared, isThere, signature⟩ := same
  have within : (compilationUnit.procedures.take index)[first]? = some declared := by
    rw [List.getElem?_take_of_lt before, isThere]
  obtain ⟨inside, isDeclared⟩ := List.getElem?_eq_some_iff.1 within
  rw [isThere, namesakes, List.head?_filter, List.find?_eq_some_iff_getElem]
  refine ⟨beq_iff_eq.2 signature, first, inside, isDeclared, ?_⟩
  intro earlier earlierBefore
  have different := isNew earlier earlierBefore
  have there := getElem?_signatures compilationUnit (earlierBefore.trans before)
  rw [signature?_eq isThere, signature, ← there, List.getElem?_map,
    List.getElem?_eq_getElem (earlierBefore.trans inside)] at different
  simpa using different

end CompilationUnit

/-- The report of a procedure that repeats the signature of an earlier one. -/
def ProcedureReport.repeated (procedure : Procedure) (first : Nat) : ProcedureReport where
  name := procedure.name
  signature := procedure.signature
  status := .failed
    ("'" ++ procedure.signature ++ "' is already declared as procedure #" ++ toString first)
  findings := []
  nodes := 0
  guards := 0

/-- The report without the time that it took. -/
def AnalysisReport.timeless (report : AnalysisReport) : AnalysisReport :=
  { report with statistics := { report.statistics with milliseconds := 0 } }

/-- What reports say of a procedure that is new in its unit is what they say of it alone under the
constants of the unit; of one that is not, they name the first of its signature.  That stays when
anything changes but the constants and the earlier procedures of the signature, save that the first of
these is named by where it stands then. -/
structure IsIsolated (reports : CompilationUnit → List ProcedureReport)
    (compilationUnit : CompilationUnit) (index : Nat) (procedure : Procedure) : Prop where
  newOrRepeated : compilationUnit.IsNew index ∨ ∃ first, compilationUnit.Repeats index first
  alone : compilationUnit.IsNew index → ∀ unitName, ∃ report,
    reports ⟨unitName, compilationUnit.constants, [procedure]⟩ = [report] ∧
    (reports compilationUnit)[index]? = some report
  repeated : ∀ first, compilationUnit.Repeats index first →
    (reports compilationUnit)[index]? = some (.repeated procedure first)
  moved : ∀ (other : CompilationUnit) (otherIndex : Nat),
    other.constants = compilationUnit.constants → other.procedures[otherIndex]? = some procedure →
    other.namesakes procedure.signature otherIndex =
      compilationUnit.namesakes procedure.signature index →
    (compilationUnit.IsNew index →
      (reports other)[otherIndex]? = (reports compilationUnit)[index]?) ∧
    ∀ first, compilationUnit.Repeats index first → ∃ otherFirst,
      other.procedures[otherFirst]? = compilationUnit.procedures[first]? ∧
      other.Repeats otherIndex otherFirst ∧
      (reports other)[otherIndex]? = some (.repeated procedure otherFirst)

namespace Analyzer

/-- The analyzer with procedures analyzed in parallel or in turn. -/
def inParallel (parallel : Bool) (analyzer : Analyzer) : Analyzer :=
  ⟨analyzer.catalog, { analyzer.settings with parallel := parallel }, analyzer.valid⟩

variable {analyzer : Analyzer} {compilationUnit : CompilationUnit} {timing : Timing}
  {collect : Collector Procedure ProcedureRun} {index : Nat} {procedure : Procedure}

theorem length_procedures (keepsOrder : collect.KeepsOrder) :
    (analyzer.execute timing collect compilationUnit).procedures.length =
      compilationUnit.procedures.length := by
  unfold execute
  simp only [runs_eq_mapIdx keepsOrder, List.length_map, List.length_mapIdx]

/-- The report at an index is that of the run there. -/
theorem getElem?_procedures (keepsOrder : collect.KeepsOrder)
    (present : compilationUnit.procedures[index]? = some procedure) :
    (analyzer.execute timing collect compilationUnit).procedures[index]? =
      some (analyzer.runAt timing compilationUnit index procedure).report := by
  unfold execute
  simp only [runs_eq_mapIdx keepsOrder, List.getElem?_map, List.getElem?_mapIdx, present,
    Option.map_some]

/-- A procedure that is new is analyzed with the constants of the unit. -/
theorem report_of_isNew (untimed : analyzer.settings.timeout? = none)
    (keepsOrder : collect.KeepsOrder) (timing : Timing)
    (present : compilationUnit.procedures[index]? = some procedure)
    (isNew : compilationUnit.IsNew index) :
    (analyzer.execute timing collect compilationUnit).procedures[index]? =
      some (analyzer.runProcedure compilationUnit.constants procedure).report := by
  rw [getElem?_procedures keepsOrder present, runAt,
    CompilationUnit.declaredBefore?_of_isNew present isNew]
  simp only [runBefore_unbounded (deadline_unbounded untimed timing index)]

theorem procedures_single (untimed : analyzer.settings.timeout? = none)
    (keepsOrder : collect.KeepsOrder) (timing : Timing) (unitName : String)
    (unitConstants : StringMap String) (procedure : Procedure) :
    (analyzer.execute timing collect ⟨unitName, unitConstants, [procedure]⟩).procedures =
      [(analyzer.runProcedure unitConstants procedure).report] := by
  have isNew : (⟨unitName, unitConstants, [procedure]⟩ : CompilationUnit).IsNew 0 :=
    fun earlier before => absurd before (Nat.not_lt_zero earlier)
  obtain ⟨report, single⟩ := List.length_eq_one_iff.1 (length_procedures keepsOrder :
    (analyzer.execute timing collect ⟨unitName, unitConstants, [procedure]⟩).procedures.length = 1)
  have first := report_of_isNew untimed keepsOrder timing rfl isNew
  rw [single] at first
  rw [single, Option.some.inj first]

/-- A procedure that repeats a signature is not analyzed. -/
theorem report_of_repeats {first : Nat} (keepsOrder : collect.KeepsOrder) (timing : Timing)
    (present : compilationUnit.procedures[index]? = some procedure)
    (repeats : compilationUnit.Repeats index first) :
    (analyzer.execute timing collect compilationUnit).procedures[index]? =
      some (.repeated procedure first) := by
  rw [getElem?_procedures keepsOrder present, runAt,
    CompilationUnit.declaredBefore?_of_repeats present repeats]
  rfl

theorem isIsolated_execute (untimed : analyzer.settings.timeout? = none)
    (keepsOrder : collect.KeepsOrder) (timing : Timing)
    (present : compilationUnit.procedures[index]? = some procedure) :
    IsIsolated (fun anyUnit => (analyzer.execute timing collect anyUnit).procedures) compilationUnit
      index procedure := by
  constructor
  · exact compilationUnit.isNew_or_repeats index
  · intro isNew unitName
    exact ⟨_, procedures_single untimed keepsOrder timing unitName compilationUnit.constants procedure,
      report_of_isNew untimed keepsOrder timing present isNew⟩
  · intro first repeats
    exact report_of_repeats keepsOrder timing present repeats
  · intro other otherIndex sameConstants otherPresent sameNamesakes
    have newInBoth := CompilationUnit.isNew_iff_isNew present otherPresent sameNamesakes
    constructor
    · intro isNew
      have otherReport := report_of_isNew untimed keepsOrder timing otherPresent
        (newInBoth.2 isNew)
      rw [sameConstants] at otherReport
      exact otherReport.trans (report_of_isNew untimed keepsOrder timing present isNew).symm
    · intro first repeats
      -- A repetition stays one, and of the same procedure: that is the first of the namesakes.
      rcases other.isNew_or_repeats otherIndex with otherIsNew | ⟨otherFirst, otherRepeats⟩
      · exact absurd repeats.same (newInBoth.1 otherIsNew first repeats.before)
      · refine ⟨otherFirst, ?_, otherRepeats,
          report_of_repeats keepsOrder timing otherPresent otherRepeats⟩
        rw [← CompilationUnit.head?_namesakes otherPresent otherRepeats, sameNamesakes,
          CompilationUnit.head?_namesakes present repeats]

/-- It does not matter for what is found whether procedures are analyzed in parallel. -/
theorem analyze_inParallel (parallel : Bool) (compilationUnit : CompilationUnit) :
    (analyzer.inParallel parallel).analyze compilationUnit = analyzer.analyze compilationUnit := by
  unfold analyze execute
  rw [runs_eq_mapIdx Collector.keepsOrder_inTurn, runs_eq_mapIdx Collector.keepsOrder_inTurn]
  rfl

/-- Without a budget of time the report of a procedure depends on nothing else in its unit but the
constants and whether its signature is there before, and where, and procedures analyzed in parallel and
in turn have one report but for the time. -/
theorem execute_isolates (analyzer : Analyzer) (untimed : analyzer.settings.timeout? = none)
    {collect : Collector Procedure ProcedureRun} (keepsOrder : collect.KeepsOrder)
    (timing : Timing) (compilationUnit : CompilationUnit) :
    (analyzer.execute timing collect compilationUnit).procedures.length =
      compilationUnit.procedures.length ∧
    (∀ index procedure, compilationUnit.procedures[index]? = some procedure →
      IsIsolated (fun anyUnit => (analyzer.execute timing collect anyUnit).procedures)
        compilationUnit index procedure) ∧
    ∀ (parallel : Bool) (otherTiming : Timing) (otherCollect : Collector Procedure ProcedureRun),
      otherCollect.KeepsOrder →
      ((analyzer.inParallel parallel).execute otherTiming otherCollect compilationUnit).timeless =
        (analyzer.execute timing collect compilationUnit).timeless := by
  refine ⟨length_procedures keepsOrder, ?_, ?_⟩
  · intro index procedure present
    exact isIsolated_execute untimed keepsOrder timing present
  · intro parallel otherTiming otherCollect otherKeepsOrder
    have otherUntimed : (analyzer.inParallel parallel).settings.timeout? = none := untimed
    rw [execute_untimed otherUntimed otherKeepsOrder, execute_untimed untimed keepsOrder,
      analyze_inParallel]
    rfl

end Analyzer

/-! Units that declare a procedure twice. -/

namespace RepeatedServe

def login : Procedure := .named "login"

def serve : Procedure := .named "serve"

def servlet (procedures : List Procedure) : CompilationUnit := ⟨"servlet", .empty, procedures⟩

def timing : Timing := ⟨fun _ visits => visits, fun _ visits => visits, 3000000⟩

def reports (compilationUnit : CompilationUnit) : List ProcedureReport :=
  (DecodingLoop.analyzer.execute timing .backwards compilationUnit).procedures

theorem signatures : (servlet [login, serve, serve]).signature? 0 = some "login()" ∧
    (servlet [login, serve, serve]).signature? 1 = some "serve()" ∧
    (servlet [login, serve, serve]).signature? 2 = some "serve()" := by
  cbv

theorem isNew : (servlet [login, serve, serve]).IsNew 1 := by
  obtain ⟨login, serve, -⟩ := signatures
  intro earlier before
  obtain rfl : earlier = 0 := by omega
  rw [login, serve]
  decide

theorem repeats : (servlet [login, serve, serve]).Repeats 2 1 := by
  obtain ⟨-, first, second⟩ := signatures
  exact ⟨by decide, first.trans second.symm, isNew⟩

/-- The first declaration has the report that it has alone, the second one that of a repetition. -/
theorem execute_isolates_serve :
    DecodingLoop.analyzer.settings.timeout? = none ∧
    (Collector.backwards : Collector Procedure ProcedureRun).KeepsOrder ∧
    (∃ report, reports ⟨"alone", .empty, [serve]⟩ = [report] ∧
      (reports (servlet [login, serve, serve]))[1]? = some report) ∧
    (reports (servlet [login, serve, serve]))[2]? = some (.repeated serve 1) ∧
    ((DecodingLoop.analyzer.inParallel false).execute timing .backwards
        (servlet [login, serve, serve])).timeless =
      (DecodingLoop.analyzer.execute timing .backwards (servlet [login, serve, serve])).timeless := by
  have keepsOrder := @Collector.keepsOrder_backwards Procedure ProcedureRun
  obtain ⟨-, isolated, parallel⟩ := Analyzer.execute_isolates DecodingLoop.analyzer rfl keepsOrder
    timing (servlet [login, serve, serve])
  exact ⟨rfl, keepsOrder, (isolated 1 serve rfl).alone isNew "alone",
    (isolated 2 serve rfl).repeated 1 repeats, parallel false timing .backwards keepsOrder⟩

/-- When a procedure of another signature is put before the two declarations, the report on the second
one changes. -/
theorem report_changes :
    DecodingLoop.analyzer.settings.timeout? = none ∧
    (Collector.backwards : Collector Procedure ProcedureRun).KeepsOrder ∧
    login.signature ≠ serve.signature ∧
    (reports (servlet [serve, serve]))[1]? = some ⟨"serve", "serve()",
      .failed "'serve()' is already declared as procedure #0", [], 0, 0⟩ ∧
    (reports (servlet (login :: [serve, serve])))[2]? = some ⟨"serve", "serve()",
      .failed "'serve()' is already declared as procedure #1", [], 0, 0⟩ ∧
    (reports (servlet [serve, serve]))[1]? ≠ (reports (servlet (login :: [serve, serve])))[2]? := by
  have different : login.signature ≠ serve.signature := by cbv
  have before : (reports (servlet [serve, serve]))[1]? = some ⟨"serve", "serve()",
      .failed "'serve()' is already declared as procedure #0", [], 0, 0⟩ := by
    cbv
  have after : (reports (servlet (login :: [serve, serve])))[2]? = some ⟨"serve", "serve()",
      .failed "'serve()' is already declared as procedure #1", [], 0, 0⟩ := by
    cbv
  refine ⟨rfl, Collector.keepsOrder_backwards, different, before, after, ?_⟩
  rw [before, after]
  simp

end RepeatedServe

end ForwardTaint
