import ForwardTaint.Proofs.Isolation
import ForwardTaint.Proofs.PathSegments

/-!
The report on a procedure that is asked for by its name.  It is the first one of that name in the report
on the whole unit: a procedure with an earlier one of its signature has an earlier one of its name, so the
first of a name repeats nothing.
-/

namespace ForwardTaint

namespace Procedure

/-- A signature begins with the name and a parenthesis. -/
theorem toList_signature (procedure : Procedure) : ∃ behind : List Char,
    procedure.signature.toList = procedure.name.toList ++ '(' :: behind := by
  refine ⟨(String.intercalate ", " (procedure.parameters.map Parameter.typeName)).toList ++ [')'], ?_⟩
  simp [signature, String.toList_append]

/-- Names without parentheses can be read off signatures, whatever the names of the types. -/
theorem name_eq_of_signature_eq {first second : Procedure} (plain : '(' ∉ first.name.toList)
    (plain' : '(' ∉ second.name.toList) (same : first.signature = second.signature) :
    first.name = second.name := by
  obtain ⟨behind, begins⟩ := first.toList_signature
  obtain ⟨behind', begins'⟩ := second.toList_signature
  have starts : first.name.toList ++ '(' :: behind <+: second.name.toList ++ '(' :: behind' := by
    rw [← begins, ← begins', same]
  exact String.toList_inj.1 (Text.prefix_segment_cons plain plain' starts).1

end Procedure

namespace CompilationUnit

/-- No name has an opening parenthesis, with which the types in a signature begin. -/
def HasPlainNames (compilationUnit : CompilationUnit) : Prop :=
  ∀ procedure ∈ compilationUnit.procedures, '(' ∉ procedure.name.toList

variable {compilationUnit : CompilationUnit} {index : Nat} {name : String} {procedure : Procedure}

/-- The first procedure of a name repeats no signature. -/
theorem isNew_of_first (plain : compilationUnit.HasPlainNames)
    (present : compilationUnit.procedures[index]? = some procedure)
    (isFirst : ∀ earlier < index, ∀ other, compilationUnit.procedures[earlier]? = some other →
      other.name ≠ procedure.name) : compilationUnit.IsNew index := by
  intro earlier before same
  rw [signature?_eq present, signature?, Option.map_eq_some_iff] at same
  obtain ⟨other, isThere, same⟩ := same
  refine isFirst earlier before other isThere (Procedure.name_eq_of_signature_eq ?_ ?_ same)
  · exact plain other (List.mem_of_getElem? isThere)
  · exact plain procedure (List.mem_of_getElem? present)

end CompilationUnit

namespace Analyzer

variable {analyzer : Analyzer} {compilationUnit : CompilationUnit} {timing : Timing}
  {collect : Collector Procedure ProcedureRun} {name : String}

/-- A report has the name of its procedure. -/
theorem name_runAt (index : Nat) (procedure : Procedure) :
    (analyzer.runAt timing compilationUnit index procedure).report.name = procedure.name := by
  rcases analyzer.runAt_cases timing compilationUnit index procedure with
    ⟨error, failed⟩ | ⟨graph, -, ended⟩
  · rw [failed]
    rfl
  · rw [ended]
    rfl

/-- The reports stand in the order of the procedures, under their names. -/
theorem getElem?_names (analyzer : Analyzer) (timing : Timing) (compilationUnit : CompilationUnit)
    (keepsOrder : collect.KeepsOrder) (index : Nat) :
    (analyzer.execute timing collect compilationUnit).procedures[index]?.map ProcedureReport.name =
      compilationUnit.procedures[index]?.map Procedure.name := by
  cases present : compilationUnit.procedures[index]? with
  | none =>
      have outside := List.getElem?_eq_none_iff.1 present
      rw [List.getElem?_eq_none ((length_procedures keepsOrder).trans_le outside)]
      rfl
  | some procedure =>
      rw [getElem?_procedures keepsOrder present, Option.map_some, Option.map_some, name_runAt]

/-- The first report of a name is the one on the first procedure of the name. -/
theorem procedure?_execute_of_some (untimed : analyzer.settings.timeout? = none)
    (keepsOrder : collect.KeepsOrder) (plain : compilationUnit.HasPlainNames) {procedure : Procedure}
    (found : compilationUnit.procedure? name = some procedure) :
    (analyzer.execute timing collect compilationUnit).procedure? name =
      some (analyzer.runProcedure compilationUnit.constants procedure).report := by
  obtain ⟨named, index, inside, isThere, isFirst⟩ := List.find?_eq_some_iff_getElem.1 found
  have present : compilationUnit.procedures[index]? = some procedure :=
    List.getElem?_eq_some_iff.2 ⟨inside, isThere⟩
  rw [beq_iff_eq] at named
  have isNew : compilationUnit.IsNew index := by
    refine CompilationUnit.isNew_of_first plain present fun earlier before other isOther => ?_
    obtain ⟨within, rfl⟩ := List.getElem?_eq_some_iff.1 isOther
    have different := isFirst earlier before
    rw [named]
    simpa using different
  have report := report_of_isNew untimed keepsOrder timing present isNew
  obtain ⟨inside', isReport⟩ := List.getElem?_eq_some_iff.1 report
  have names := getElem?_names analyzer timing compilationUnit keepsOrder
  refine List.find?_eq_some_iff_getElem.2 ⟨?_, index, inside', isReport, ?_⟩
  · have sameName := names index
    rw [report, present, Option.map_some, Option.map_some, Option.some_inj] at sameName
    rw [sameName, named, beq_self_eq_true]
  · intro earlier before
    have different := isFirst earlier before
    have sameName := names earlier
    rw [List.getElem?_eq_getElem (before.trans inside'), List.getElem?_eq_getElem
      (before.trans inside), Option.map_some, Option.map_some, Option.some_inj] at sameName
    rw [sameName]
    exact different

theorem procedure?_execute_of_none (keepsOrder : collect.KeepsOrder)
    (absent : compilationUnit.procedure? name = none) :
    (analyzer.execute timing collect compilationUnit).procedure? name = none := by
  refine List.find?_eq_none.2 fun report member => ?_
  obtain ⟨index, isReport⟩ := List.mem_iff_getElem?.1 member
  have names := getElem?_names analyzer timing compilationUnit keepsOrder index
  rw [isReport, Option.map_some, eq_comm, Option.map_eq_some_iff] at names
  obtain ⟨procedure, isThere, sameName⟩ := names
  rw [← sameName]
  exact List.find?_eq_none.1 absent procedure (List.mem_of_getElem? isThere)

/-- Without a budget of time, asking for a procedure by its name gives the first report of that name in
the report on the unit, and fails for the input exactly if there is none. -/
theorem analyzeProcedure_agrees (analyzer : Analyzer) (untimed : analyzer.settings.timeout? = none)
    {collect : Collector Procedure ProcedureRun} (keepsOrder : collect.KeepsOrder) (timing : Timing)
    {compilationUnit : CompilationUnit} (plain : compilationUnit.HasPlainNames) (name : String) :
    (∀ report, analyzer.analyzeProcedure compilationUnit name = .ok report ↔
      (analyzer.execute timing collect compilationUnit).procedure? name = some report) ∧
    ((∃ error, analyzer.analyzeProcedure compilationUnit name = .error error ∧
        error.kind = .invalidInput) ↔
      (analyzer.execute timing collect compilationUnit).procedure? name = none) := by
  unfold analyzeProcedure
  cases found : compilationUnit.procedure? name with
  | none =>
      rw [procedure?_execute_of_none keepsOrder found]
      exact ⟨fun report => ⟨nofun, nofun⟩, fun _ => rfl, fun _ => ⟨_, rfl, rfl⟩⟩
  | some procedure =>
      rw [procedure?_execute_of_some untimed keepsOrder plain found]
      refine ⟨fun report => ?_, ?_, nofun⟩
      · rw [Except.ok.injEq, Option.some.injEq]
      · rintro ⟨error, failed, -⟩
        exact nomatch failed

end Analyzer

/-! A unit with overloads, two of which have one signature because of a comma in the name of a type. -/

namespace OverloadedServe

def overload (typeNames : List String) : Procedure :=
  { Procedure.named "serve" with
    parameters := typeNames.mapIdx fun index typeName => ⟨"p" ++ toString index, typeName, []⟩ }

def servlet : CompilationUnit :=
  RepeatedServe.servlet [RepeatedServe.login, overload ["Map<String, Path>"],
    overload ["Map<String", "Path>"], overload []]

theorem hasPlainNames : servlet.HasPlainNames := by
  intro procedure member
  simp only [servlet, RepeatedServe.servlet, List.mem_cons, List.not_mem_nil, or_false] at member
  rcases member with rfl | rfl | rfl | rfl <;> decide

/-- The first overload is reported by its name as it is in the unit, where the second one fails. -/
theorem analyzeProcedure_agrees_serve :
    DecodingLoop.analyzer.settings.timeout? = none ∧
    (Collector.backwards : Collector Procedure ProcedureRun).KeepsOrder ∧ servlet.HasPlainNames ∧
    (RepeatedServe.reports servlet)[2]? = some ⟨"serve", "serve(Map<String, Path>)",
      .failed "'serve(Map<String, Path>)' is already declared as procedure #1", [], 0, 0⟩ ∧
    DecodingLoop.analyzer.analyzeProcedure servlet "serve" =
      .ok ⟨"serve", "serve(Map<String, Path>)", .complete, [], 1, 0⟩ ∧
    ∃ error, DecodingLoop.analyzer.analyzeProcedure servlet "logout" = .error error ∧
      error.kind = .invalidInput := by
  have keepsOrder := @Collector.keepsOrder_backwards Procedure ProcedureRun
  have agrees := Analyzer.analyzeProcedure_agrees DecodingLoop.analyzer rfl keepsOrder
    RepeatedServe.timing hasPlainNames
  refine ⟨rfl, keepsOrder, hasPlainNames, ?_, ?_, ?_⟩
  · cbv
  · exact ((agrees "serve").1 _).2 (by cbv)
  · exact (agrees "logout").2.2 (by cbv)

end OverloadedServe

end ForwardTaint
