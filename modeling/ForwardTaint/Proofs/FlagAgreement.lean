import ForwardTaint.Proofs.FlagValues
import ForwardTaint.Proofs.HoistedTests
import ForwardTaint.Proofs.Places

/-!
The flags that the construction knows and those that the statements alone leave.  Where control comes,
the construction knows all flags of the table that is computed from the statements without it; it
knows more only because it does not follow ways behind a return, so without returns the tables are the
same.  In particular the flags at the head of a loop hold again at the end of its body.
-/

namespace ForwardTaint

mutual

/-- Whether a return stands in the statement, at any depth. -/
def Stmt.hasReturn : Stmt → Bool
  | .return _ _ => true
  | .declare _ _ _ _ | .assign _ _ _ | .evaluate _ _ => false
  | .branch _ accepted rejected _ => hasReturnAmong accepted || hasReturnInside rejected
  | .loop _ body _ | .block body => hasReturnAmong body
  | .attempt body handlers final =>
      hasReturnAmong body || hasReturnHandling handlers || hasReturnInside final

/-- Whether a return stands in one of the statements. -/
def Stmt.hasReturnAmong : List Stmt → Bool
  | [] => false
  | stmt :: rest => stmt.hasReturn || hasReturnAmong rest

/-- Whether a return stands in statements that may be absent. -/
def Stmt.hasReturnInside : Option (List Stmt) → Bool
  | none => false
  | some stmts => hasReturnAmong stmts

/-- Whether a return stands in one of the handlers. -/
def Stmt.hasReturnHandling : List Handler → Bool
  | [] => false
  | ⟨_, _, body⟩ :: rest => hasReturnAmong body || hasReturnHandling rest

end

/-- Statements that are absent have no return. -/
theorem Stmt.hasReturnAmong_getD (stmts : Option (List Stmt)) :
    hasReturnAmong (stmts.getD []) = hasReturnInside stmts := by
  cases stmts with
  | none => rfl
  | some stmts => rfl

/-- Control that comes to the first environment comes to the second one, and a table that has all
flags of the first one has those of the second one after the effect. -/
def Environment.Confines (before : Environment) (effect : AliasTable → AliasTable)
    (after : Environment) : Prop :=
  before.reachable = true → after.reachable = true ∧
    ∀ {table : AliasTable}, before.aliases.Within table → after.aliases.Within (effect table)

/-- Control goes on with the same flags before the effect. -/
theorem Environment.Continues.confines {before start after : Environment}
    {effect : AliasTable → AliasTable} (continues : before.Continues start)
    (confines : start.Confines effect after) : before.Confines effect after := by
  rw [Confines, continues.reachable, continues.aliases] at confines
  exact confines

theorem Environment.confines_catching (environment : Environment) (parameter : Option String) :
    environment.Confines (fun table => table.catching parameter) (environment.catching parameter) := by
  cases parameter with
  | none => exact fun isReachable => ⟨isReachable, id⟩
  | some name => exact fun isReachable => ⟨isReachable, fun within => within.invalidate name⟩

theorem Environment.Stores.confines {name : String} {value : Expr} {before after : Environment}
    (stores : before.Stores name value after) :
    before.Confines (fun table => AliasTable.assign table name value) after := by
  intro isReachable
  rw [stores.reachable, stores.aliases]
  exact ⟨isReachable, fun within => within.assign name value⟩

/-- Where control comes from before and behind some statements, the construction knows only flags
that both places have. -/
theorem Environment.Meets.confines {before atEnd start : Environment}
    {effect : AliasTable → AliasTable} (meets : Environment.Meets [before, atEnd] start)
    (confines : before.Confines effect atEnd) :
    before.Confines (fun table => table.intersect (effect table)) start := by
  intro isReachable
  obtain ⟨comes, confinesEnd⟩ := confines isReachable
  obtain ⟨comesStart, fewer⟩ := meets.leadsTo List.mem_cons_self isReachable
  obtain ⟨-, fewer'⟩ := meets.leadsTo (List.mem_cons_of_mem _ (List.mem_singleton_self _)) comes
  exact ⟨comesStart, fun within => (fewer.trans within).both (fewer'.trans (confinesEnd within))⟩

mutual

/-- Behind a statement without a return the construction knows only flags that the statement alone
leaves. -/
theorem Outline.Binds.confines {before after : Environment} {stmt : Stmt} {outline : Outline} :
    outline.Binds before stmt after → stmt.hasReturn = false →
    before.Confines (AliasTable.afterStmt stmt) after
  | .initial stores, _ | .assign stores, _ => stores.confines
  | .declare forgets, _ => by
      rw [forgets]
      exact fun isReachable => ⟨isReachable, fun within => within.invalidate _⟩
  | .evaluate same, _ => by
      rw [same]
      exact fun isReachable => ⟨isReachable, id⟩
  | .branch entersTrue bindsTrue entersFalse bindsFalse meets, goesOn => by
      obtain ⟨goesOnTrue, goesOnFalse⟩ := Bool.or_eq_false_iff.1 goesOn
      rw [← Stmt.hasReturnAmong_getD] at goesOnFalse
      intro isReachable
      obtain ⟨comesTrue, confinesTrue⟩ :=
        entersTrue.confines (bindsTrue.confines goesOnTrue) isReachable
      obtain ⟨comesFalse, confinesFalse⟩ :=
        entersFalse.confines (bindsFalse.confines goesOnFalse) isReachable
      obtain ⟨comes, fewer⟩ := meets.leadsTo List.mem_cons_self comesTrue
      obtain ⟨-, fewer'⟩ :=
        meets.leadsTo (List.mem_cons_of_mem _ (List.mem_singleton_self _)) comesFalse
      refine ⟨comes, fun within => ?_⟩
      rw [AliasTable.afterStmt, ← AliasTable.after_getD]
      exact (fewer.trans (confinesTrue within)).both (fewer'.trans (confinesFalse within))
  | .loop aliases reachable enters bindsBody leaves, _ => by
      intro isReachable
      rw [leaves.reachable, reachable, leaves.aliases, aliases]
      exact ⟨isReachable, fun within =>
        AliasTable.isMonotone_atLoopHead (AliasTable.after_mono _) within⟩
  | .block enters bindsBody leaves, goesOn => by
      rw [leaves, ← enters]
      exact bindsBody.confines goesOn
  | .attempt enters bindsBody starts bindHandlers meets bindsFinal leaves, goesOn => by
      obtain ⟨goesOnFirst, goesOnFinal⟩ := Bool.or_eq_false_iff.1 goesOn
      obtain ⟨goesOnBody, goesOnHandlers⟩ := Bool.or_eq_false_iff.1 goesOnFirst
      rw [← Stmt.hasReturnAmong_getD] at goesOnFinal
      rw [leaves]
      intro isReachable
      have confinesBody := bindsBody.confines goesOnBody
      rw [enters] at confinesBody
      obtain ⟨comesEnd, confinesEnd⟩ := confinesBody isReachable
      obtain ⟨comesStart, confinesStart⟩ := starts.confines confinesBody isReachable
      obtain ⟨comes, fewer⟩ := meets.leadsTo List.mem_cons_self comesEnd
      obtain ⟨comesFinal, confinesFinal⟩ := bindsFinal.confines goesOnFinal comes
      refine ⟨comesFinal, fun within => ?_⟩
      rw [AliasTable.afterStmt, ← AliasTable.after_getD]
      apply confinesFinal
      apply bindHandlers.confine goesOnHandlers comesStart (confinesStart within)
      · exact fewer.trans (confinesEnd within)
      · intro handler isHandler comesHandler
        have leads : handler.course.atEnd.LeadsTo _ :=
          meets.leadsTo (List.mem_cons_of_mem _ (List.mem_map.2 ⟨handler, isHandler, rfl⟩))
        exact (leads comesHandler).2
  | .return _, goesOn => nomatch goesOn

theorem Course.Binds.confines {stmts : List Stmt} {course : Course} :
    course.Binds stmts → Stmt.hasReturnAmong stmts = false →
    course.start.Confines (AliasTable.after stmts) course.atEnd
  | .done, _ => fun isReachable => ⟨isReachable, id⟩
  | .step bindsFirst bindsRest, goesOn => by
      obtain ⟨goesOnFirst, goesOnRest⟩ := Bool.or_eq_false_iff.1 goesOn
      intro isReachable
      obtain ⟨comes, confinesFirst⟩ := bindsFirst.confines goesOnFirst isReachable
      obtain ⟨comesRest, confinesRest⟩ := bindsRest.confines goesOnRest comes
      exact ⟨comesRest, fun within => confinesRest (confinesFirst within)⟩

/-- What is in the tables behind all handlers is in the table that the handlers alone leave. -/
theorem HandlersBind.confine {start : Environment} {handlers : List Handler}
    {courses : List HandlerCourse} : HandlersBind start handlers courses →
    Stmt.hasReturnHandling handlers = false → start.reachable = true →
    ∀ {table joined common : AliasTable}, start.aliases.Within table → common.Within joined →
    (∀ handler ∈ courses, handler.course.atEnd.reachable = true →
      common.Within handler.course.atEnd.aliases) →
    common.Within (AliasTable.afterHandlers handlers table joined)
  | .nil, _, _, _, _, _, _, inJoined, _ => inJoined
  | .cons starts bindsBody bindRest, goesOn, comes, _, _, _, within, inJoined, inEach => by
      obtain ⟨goesOnBody, goesOnRest⟩ := Bool.or_eq_false_iff.1 goesOn
      obtain ⟨comesBody, confinesStart⟩ := start.confines_catching _ comes
      rw [← starts] at comesBody confinesStart
      obtain ⟨comesEnd, confinesBody⟩ := bindsBody.confines goesOnBody comesBody
      have inBody := (inEach _ List.mem_cons_self comesEnd).trans
        (confinesBody (confinesStart within))
      rw [AliasTable.afterHandlers_cons]
      exact bindRest.confine goesOnRest comes within (inJoined.both inBody)
        fun handler isHandler => inEach handler (List.mem_cons_of_mem _ isHandler)

end

/-- The blocks of a statement treat the flags as the construction does. -/
theorem HandlersBind.of_mem {start : Environment} {handlers : List Handler}
    {courses : List HandlerCourse} (bind : HandlersBind start handlers courses)
    {handler : HandlerCourse} (isHandler : handler ∈ courses) :
    ∃ stmts, handler.course.Binds stmts := by
  induction courses generalizing handlers with
  | nil => exact absurd isHandler List.not_mem_nil
  | cons first rest inductionHypothesis =>
      cases bind with
      | cons starts bindsBody bindRest =>
          rcases List.mem_cons.1 isHandler with rfl | isLater
          · exact ⟨_, bindsBody⟩
          · exact inductionHypothesis bindRest isLater

theorem Outline.Binds.of_encloses {before after : Environment} {stmt : Stmt} {outline : Outline}
    (binds : outline.Binds before stmt after) {block : Course} (encloses : outline.Encloses block) :
    ∃ stmts, block.Binds stmts := by
  cases binds with
  | initial | declare | assign | evaluate | «return» => cases encloses
  | branch _ bindsTrue _ bindsFalse _ =>
      cases encloses with
      | accepted => exact ⟨_, bindsTrue⟩
      | rejected => exact ⟨_, bindsFalse⟩
  | loop _ _ _ bindsBody _ =>
      cases encloses with
      | round => exact ⟨_, bindsBody⟩
  | block _ bindsBody _ =>
      cases encloses with
      | block => exact ⟨_, bindsBody⟩
  | attempt _ bindsBody _ bindHandlers _ bindsFinal _ =>
      cases encloses with
      | attempted => exact ⟨_, bindsBody⟩
      | handler isHandler => exact bindHandlers.of_mem isHandler
      | final => exact ⟨_, bindsFinal⟩

/-- What remains behind a place treats the flags as the construction does, too. -/
theorem Course.Binds.of_has {course inner : Course} (has : course.Has inner) {stmts : List Stmt}
    (binds : course.Binds stmts) : ∃ stmts, inner.Binds stmts := by
  induction has generalizing stmts with
  | here => exact ⟨stmts, binds⟩
  | later _ inductionHypothesis =>
      cases binds with
      | step _ bindsRest => exact inductionHypothesis bindsRest
  | inside encloses _ inductionHypothesis =>
      cases binds with
      | step bindsFirst _ =>
          obtain ⟨_, bindsBlock⟩ := bindsFirst.of_encloses encloses
          exact inductionHypothesis bindsBlock

/-- At the end of a loop's body, if control comes there, the flags of the head hold again. -/
theorem Course.Binds.head_holds_again {course rest round : Course} {stmts : List Stmt}
    {before head : Environment} {test : Expr} {guard : Nat} (binds : course.Binds stmts)
    (has : course.Has (.step before (.loop test guard head round) rest))
    (comes : round.atEnd.reachable = true) : head.aliases.Within round.atEnd.aliases := by
  obtain ⟨_, bindsLoop⟩ := binds.of_has has
  cases bindsLoop with
  | step bindsFirst _ =>
      cases bindsFirst with
      | loop aliases _ enters bindsBody _ =>
          exact (Environment.leadsTo_head aliases enters bindsBody comes).2

namespace Build

variable {context : BuildContext} {environment after : Environment}
  {draft final : Draft}

/-- What is made of a step's result is made of one. -/
theorem exists_of_map_ok {Failure First Second : Type} {outcome : Except Failure First}
    {change : First → Second} {result : Second} (mapped : change <$> outcome = .ok result) :
    ∃ value, outcome = .ok value ∧ change value = result := by
  cases outcome with
  | error failure => exact nomatch mapped
  | ok value => exact ⟨value, rfl, Except.ok.inj mapped⟩

/-- Statements that are added have an outline that ends with the environment behind them. -/
theorem outlineAll_of_addAll {stmts : List Stmt}
    (ends : (addAll context stmts environment).run draft = .ok (after, final)) :
    ∃ course, (outlineAll context stmts environment).run draft = .ok (course, final) ∧
      course.atEnd = after := by
  rw [← outlineAll_eq, StateT.run_map] at ends
  obtain ⟨⟨course, reached⟩, outlined, same⟩ := exists_of_map_ok ends
  obtain ⟨rfl, rfl⟩ := Prod.mk.inj same
  exact ⟨course, outlined, rfl⟩

/-- Where statements start from a place that control comes to and are added, the construction agrees
with the table that the statements alone leave.  If control comes behind them, it knows all flags of
that table there; if they have no return, control does come there and the tables are the same.  And
each flag at the head of a loop, at any depth, holds again at the end of the loop's body if control
comes there. -/
theorem addAll_agrees {stmts : List Stmt} (comes : environment.reachable = true)
    (ends : (addAll context stmts environment).run draft = .ok (after, final)) :
    (after.reachable = true →
      (AliasTable.after stmts environment.aliases).Within after.aliases) ∧
    (Stmt.hasReturnAmong stmts = false → after.reachable = true ∧
      after.aliases = AliasTable.after stmts environment.aliases) ∧
    ∃ course, (outlineAll context stmts environment).run draft = .ok (course, final) ∧
      course.Shows stmts ∧ course.start = environment ∧ course.atEnd = after ∧
      ∀ (before head : Environment) (test : Expr) (guard : Nat) (round rest : Course),
        course.Has (.step before (.loop test guard head round) rest) →
        round.atEnd.reachable = true → head.aliases.Within round.atEnd.aliases := by
  obtain ⟨course, outlined, rfl⟩ := outlineAll_of_addAll ends
  have shows := outlineAll_shows stmts outlined
  obtain ⟨rfl, binds⟩ := outlineAll_binds stmts outlined
  refine ⟨fun comesEnd => (binds.keeps comesEnd).2 fun _ _ => id, fun goesOn => ?_,
    course, outlined, shows, rfl, rfl, fun _ _ _ _ _ _ => binds.head_holds_again⟩
  obtain ⟨comesEnd, confines⟩ := binds.confines goesOn comes
  obtain ⟨-, keeps⟩ := binds.keeps comesEnd
  exact ⟨comesEnd, (confines fun _ _ => id).antisymm (keeps fun _ _ => id)⟩

end Build

namespace DecodingLoop

/-- The environment in which nodes hold the path and the flag, which stands for the question. -/
def asked (path encoded : Nat) : Environment where
  definitions := (StringMap.empty.insert "path" path).insert "encoded" encoded
  aliases := StringMap.empty.insert "encoded" isEncoded
  reachable := true

/-- The body of the loop on the flag, in the middle of which the flag stands for nothing. -/
def hoistedRound : Course :=
  .step (asked 7 6) (.assign "path" (.localCall "decode" [.variable "path"]))
    (.step { asked 9 6 with aliases := .empty } (.assign "encoded" isEncoded)
      (.done (asked 9 12)))

def hoistedLoop : Course :=
  .step (asked 1 4) (.loop (.variable "encoded") 0 (asked 5 6) hoistedRound) (.done (asked 13 6))

def hoistedCourse : Course := .step (environment 1) (.assign "encoded" isEncoded) hoistedLoop

theorem fst_outlineAll_hoisted :
    Prod.fst <$> (Build.outlineAll context hoisted (environment 1)).run started =
      .ok hoistedCourse := by
  cbv

/-- The question is in the flag at the head of the loop, lost when the path is decoded, and in the
flag again at the end of the body; behind the loop it is the flag that the statements leave. -/
theorem flag_holds_again : ∃ final,
    (Build.addAll context hoisted (environment 1)).run started = .ok (asked 13 6, final) ∧
    (asked 13 6).aliases = AliasTable.after hoisted (environment 1).aliases ∧
    (asked 5 6).aliases.Within (asked 9 12).aliases := by
  obtain ⟨⟨course, final⟩, outlined, same⟩ := Build.exists_of_map_ok fst_outlineAll_hoisted
  obtain rfl : course = hoistedCourse := same
  have added : (Build.addAll context hoisted (environment 1)).run started =
      .ok (asked 13 6, final) := by
    rw [← Build.outlineAll_eq, StateT.run_map, outlined]
    rfl
  obtain ⟨-, agree, course, outlined', -, -, -, again⟩ := Build.addAll_agrees rfl added
  obtain rfl : hoistedCourse = course :=
    (Prod.mk.inj (Except.ok.inj (outlined.symm.trans outlined'))).1
  obtain ⟨-, aliases⟩ := agree (by decide)
  exact ⟨final, added, aliases, again _ _ _ _ _ _ (.later .here) rfl⟩

end DecodingLoop

end ForwardTaint
