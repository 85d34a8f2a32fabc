import ForwardTaint.Proofs.OutlineConstruction

/-!
The construction knows no fewer flags at the places of an outline than the table of the statements
alone, by which the table at the head of a loop was found.
-/

namespace ForwardTaint

namespace AliasTable

/-- Statements that are absent keep the table. -/
theorem after_getD (stmts : Option (List Stmt)) (table : AliasTable) :
    after (stmts.getD []) table = afterOption stmts table := by
  cases stmts with
  | none => rfl
  | some stmts => rfl

/-- The bindings where a handler starts. -/
def catching (table : AliasTable) : Option String → AliasTable
  | some name => invalidate table name
  | none => table

theorem afterHandlers_cons (parameter exceptionType : Option String) (body : List Stmt)
    (rest : List Handler) (entry joined : AliasTable) :
    afterHandlers (⟨parameter, exceptionType, body⟩ :: rest) entry joined =
      afterHandlers rest entry (intersect joined (after body (entry.catching parameter))) := by
  cases parameter with
  | none => rfl
  | some name => rfl

/-- Handlers only lose bindings of what they are joined with. -/
theorem afterHandlers_within (handlers : List Handler) (entry joined : AliasTable) :
    (afterHandlers handlers entry joined).Within joined := by
  induction handlers generalizing joined with
  | nil => exact fun _ _ => id
  | cons handler rest inductionHypothesis =>
      obtain ⟨parameter, exceptionType, body⟩ := handler
      rw [afterHandlers_cons]
      exact (inductionHypothesis _).trans (intersect_within_left _ _)

end AliasTable

/-- Control comes to the second environment only from the first one, and a table that the first one
has is one that the second has after the effect. -/
def Environment.Keeps (before : Environment) (effect : AliasTable → AliasTable)
    (after : Environment) : Prop :=
  after.reachable = true → before.reachable = true ∧
    ∀ {table : AliasTable}, table.Within before.aliases → (effect table).Within after.aliases

/-- A handler starts where the environment does, with the flags that are left there. -/
theorem Environment.keeps_catching (environment : Environment) (parameter : Option String) :
    environment.Keeps (fun table => table.catching parameter) (environment.catching parameter) := by
  cases parameter with
  | none => exact fun isReachable => ⟨isReachable, id⟩
  | some name => exact fun isReachable => ⟨isReachable, fun within => within.invalidate name⟩

theorem Environment.Stores.keeps {name : String} {value : Expr} {before after : Environment}
    (stores : before.Stores name value after) :
    before.Keeps (fun table => AliasTable.assign table name value) after := by
  intro isReachable
  rw [stores.reachable] at isReachable
  refine ⟨isReachable, fun within => ?_⟩
  rw [stores.aliases]
  exact within.assign name value

/-- A table that is in each table that control comes from is in the one where they meet. -/
theorem Environment.Meets.within {environments : List Environment} {after : Environment}
    (meets : Environment.Meets environments after) (isReachable : after.reachable = true)
    {table : AliasTable} (inEach : ∀ environment ∈ environments, environment.reachable = true →
      table.Within environment.aliases) : table.Within after.aliases := by
  intro flag predicate bound
  rw [meets.aliases isReachable]
  intro environment member live
  exact inEach environment member live flag predicate bound

/-- Where control comes from before or behind some statements, the construction knows the flags that
both places have. -/
theorem Environment.Meets.keeps {before atEnd start : Environment} {effect : AliasTable → AliasTable}
    (meets : Environment.Meets [before, atEnd] start) (keeps : before.Keeps effect atEnd) :
    before.Keeps (fun table => table.intersect (effect table)) start := by
  intro isReachable
  constructor
  · obtain ⟨environment, member, live⟩ := meets.reachable.1 isReachable
    rcases List.mem_cons.1 member with rfl | member
    · exact live
    · rw [List.mem_singleton.1 member] at live
      exact (keeps live).1
  · intro table within
    apply meets.within isReachable
    intro environment member live
    rcases List.mem_cons.1 member with rfl | member
    · exact (AliasTable.intersect_within_left _ _).trans within
    · rw [List.mem_singleton.1 member] at live ⊢
      exact (AliasTable.intersect_within_right _ _).trans ((keeps live).2 within)

mutual

/-- Behind a statement the construction knows the flags that the statement alone leaves. -/
theorem Outline.Binds.keeps {before after : Environment} {stmt : Stmt} {outline : Outline} :
    outline.Binds before stmt after → before.Keeps (AliasTable.afterStmt stmt) after
  | .initial stores | .assign stores => stores.keeps
  | .declare forgets => by
      rw [forgets]
      exact fun isReachable => ⟨isReachable, fun within => within.invalidate _⟩
  | .evaluate same => by
      rw [same]
      exact fun isReachable => ⟨isReachable, id⟩
  | .branch entersTrue bindsTrue entersFalse bindsFalse meets => by
      intro isReachable
      have keepsTrue := bindsTrue.keeps
      have keepsFalse := bindsFalse.keeps
      constructor
      · obtain ⟨environment, member, live⟩ := meets.reachable.1 isReachable
        rcases List.mem_cons.1 member with rfl | member
        · rw [← entersTrue.reachable]
          exact (keepsTrue live).1
        · rw [List.mem_singleton.1 member] at live
          rw [← entersFalse.reachable]
          exact (keepsFalse live).1
      · intro table within
        rw [AliasTable.afterStmt, ← AliasTable.after_getD]
        apply meets.within isReachable
        intro environment member live
        rcases List.mem_cons.1 member with rfl | member
        · rw [← entersTrue.aliases] at within
          exact (AliasTable.intersect_within_left _ _).trans ((keepsTrue live).2 within)
        · rw [List.mem_singleton.1 member] at live ⊢
          rw [← entersFalse.aliases] at within
          exact (AliasTable.intersect_within_right _ _).trans ((keepsFalse live).2 within)
  | .loop aliases reachable enters bindsBody leaves => by
      intro isReachable
      rw [leaves.reachable, reachable] at isReachable
      refine ⟨isReachable, fun within => ?_⟩
      rw [leaves.aliases, aliases]
      exact AliasTable.isMonotone_atLoopHead (AliasTable.after_mono _) within
  | .block enters bindsBody leaves => by
      rw [leaves, ← enters]
      exact bindsBody.keeps
  | .attempt enters bindsBody starts bindHandlers meets bindsFinal leaves => by
      rw [leaves]
      intro isReachable
      have keepsBody := bindsBody.keeps
      rw [enters] at keepsBody
      have keepHandlers := bindHandlers.keep
      obtain ⟨comes, keepsFinal⟩ := bindsFinal.keeps isReachable
      have keepsStart := starts.keeps keepsBody
      constructor
      · obtain ⟨environment, member, live⟩ := meets.reachable.1 comes
        rcases List.mem_cons.1 member with rfl | member
        · exact (keepsBody live).1
        · obtain ⟨handler, isHandler, rfl⟩ := List.mem_map.1 member
          exact (keepsStart (keepHandlers handler isHandler .empty live).1).1
      · intro table within
        rw [AliasTable.afterStmt, ← AliasTable.after_getD]
        apply keepsFinal
        apply meets.within comes
        intro environment member live
        rcases List.mem_cons.1 member with rfl | member
        · exact (AliasTable.afterHandlers_within _ _ _).trans ((keepsBody live).2 within)
        · obtain ⟨handler, isHandler, rfl⟩ := List.mem_map.1 member
          obtain ⟨comesStart, keepsHandler⟩ := keepHandlers handler isHandler _ live
          exact keepsHandler ((keepsStart comesStart).2 within)
  | .return leaves => fun isReachable => nomatch leaves.symm.trans isReachable

theorem Course.Binds.keeps {stmts : List Stmt} {course : Course} :
    course.Binds stmts → course.start.Keeps (AliasTable.after stmts) course.atEnd
  | .done => fun isReachable => ⟨isReachable, id⟩
  | .step bindsFirst bindsRest => by
      intro isReachable
      obtain ⟨comes, keepsRest⟩ := bindsRest.keeps isReachable
      obtain ⟨comesFirst, keepsFirst⟩ := bindsFirst.keeps comes
      exact ⟨comesFirst, fun within => keepsRest (keepsFirst within)⟩

/-- Behind each handler the construction knows the flags that all handlers leave. -/
theorem HandlersBind.keep {start : Environment} {handlers : List Handler}
    {courses : List HandlerCourse} : HandlersBind start handlers courses →
    ∀ handler ∈ courses, ∀ joined, start.Keeps
      (fun table => AliasTable.afterHandlers handlers table joined) handler.course.atEnd
  | .nil => nofun
  | .cons starts bindsBody bindRest => by
      intro handler member joined isReachable
      rcases List.mem_cons.1 member with rfl | member
      · obtain ⟨comes, keepsBody⟩ := bindsBody.keeps isReachable
        rw [starts] at comes keepsBody
        obtain ⟨comes, keepsStart⟩ := start.keeps_catching _ comes
        refine ⟨comes, fun within => ?_⟩
        dsimp only
        rw [AliasTable.afterHandlers_cons]
        exact (AliasTable.afterHandlers_within _ _ _).trans
          ((AliasTable.intersect_within_right _ _).trans (keepsBody (keepsStart within)))
      · have comes := (bindRest.keep handler member joined isReachable).1
        refine ⟨comes, fun within => ?_⟩
        dsimp only
        rw [AliasTable.afterHandlers_cons]
        exact (bindRest.keep handler member _ isReachable).2 within

end

end ForwardTaint
