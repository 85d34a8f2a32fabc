import ForwardTaint.Proofs.LexerSteps
import ForwardTaint.Proofs.PrintableText
import ForwardTaint.Yaml.Parser

/-!
Block mappings are read as they are written.  The lexer finds the tokens of each entry between its column
and the next line outside of it, and the reader finds the entry in its tokens.
-/

namespace ForwardTaint.Yaml

theorem toList_pushn (text : String) (char : Char) (count : Nat) :
    (text.pushn char count).toList = text.toList ++ List.replicate count char := by
  induction count with
  | zero => simp [String.pushn, Nat.repeat]
  | succ count inductionHypothesis =>
      have pushed : text.pushn char (count + 1) = (text.pushn char count).push char := rfl
      rw [pushed, String.toList_push, inductionHypothesis, List.replicate_succ', List.append_assoc]

mutual

/-- A value of mappings and scalars is printed without loss as text with these tokens. -/
inductive HasTokens : Yaml → List Token → Prop
  | plain {text : String} (plain : IsPlain text.toList) :
      HasTokens (.scalar .plain text) [.scalar true text]
  | quoted (text : String) : HasTokens (.scalar .quoted text) [.scalar false text]
  | mapping {entry : Yaml × Yaml} {entries : List (Yaml × Yaml)} {tokens : List Token}
      (haveTokens : EntriesHaveTokens (entry :: entries) tokens) :
      HasTokens (.mapping (entry :: entries)) (.blockMappingStart :: (tokens ++ [.blockEnd]))

/-- The entries of a mapping, with plain keys, are printed without loss as text with these tokens. -/
inductive EntriesHaveTokens : List (Yaml × Yaml) → List Token → Prop
  | nil : EntriesHaveTokens [] []
  | cons {key : String} {value : Yaml} {entries : List (Yaml × Yaml)} {tokens later : List Token}
      (plain : IsPlain key.toList) (short : key.toList.length ≤ 1024) (hasTokens : HasTokens value tokens)
      (haveTokens : EntriesHaveTokens entries later) :
      EntriesHaveTokens ((.scalar .plain key, value) :: entries)
        (.key :: .scalar true key :: .value :: (tokens ++ later))

end

theorem toList_entriesText (indent : Nat) (key : String) (value : Yaml) (entries : List (Yaml × Yaml)) :
    (entriesText indent false ((.scalar .plain key, value) :: entries)).toList =
      List.replicate indent ' ' ++ (key.toList ++ ':' :: ((valueText indent value).toList ++
        (entriesText indent false entries).toList)) := by
  simp [entriesText, keyText, toList_pushn]

theorem EntriesHaveTokens.isOutside {entries : List (Yaml × Yaml)} {tokens : List Token}
    (haveTokens : EntriesHaveTokens entries tokens) {indent : Nat} {following : List Char}
    (isOutside : IsOutside indent following) :
    IsOutside indent ((entriesText indent false entries).toList ++ following) := by
  cases haveTokens with
  | nil => simpa [entriesText] using isOutside
  | cons plain =>
      rw [toList_entriesText, List.append_assoc, List.append_assoc]
      exact ⟨indent, _, Nat.le_refl _, plain.isLineRest _, rfl⟩

/-- The text behind a colon begins with a space or a line break. -/
theorem HasTokens.endsWord {value : Yaml} {tokens : List Token} (hasTokens : HasTokens value tokens)
    (indent : Nat) (following : List Char) :
    endsWord ((valueText indent value).toList ++ following) = true := by
  cases hasTokens <;> simp [valueText, Yaml.endsWord, isBlank, isBreak]

open Lexer in
mutual

/-- The tokens of a value are taken between its colon and the next line outside of it. -/
theorem HasTokens.reaches : ∀ {value : Yaml} {written : List Token}, HasTokens value written →
    ∀ {indent column : Nat} {following : List Char}, indent ≤ column → IsOutside indent following →
    ∀ (line : Nat) (tokens : List Token) (indents : List Nat), ∃ line',
      (free ⟨line, column, (valueText indent value).toList ++ following⟩ tokens (indent :: indents)
        false).Reaches
      (atLine line' following (written.reverse ++ tokens) (indent :: indents))
  | _, _, .plain plain, indent, column, following, behind, isOutside, line, tokens, indents => by
      refine ⟨line + 1, ?_⟩
      have reached := reaches_plain line tokens indents plain behind isOutside
      rw [String.ofList_toList] at reached
      simpa [valueText] using reached
  | _, _, .quoted text, indent, column, following, behind, isOutside, line, tokens, indents => by
      obtain ⟨line', reached⟩ := reaches_quotedText line tokens indents text behind isOutside
      exact ⟨line', by simpa [valueText] using reached⟩
  | .mapping (entry :: entries), _, .mapping haveTokens, indent, column, following, behind, isOutside,
      line, tokens, indents => by
      have kept : ∀ inner ∈ (indent :: indents).head?, inner ≤ indent + 2 := by simp
      -- The inner mapping stands two columns further on and ends where the outer entry does.
      obtain ⟨line', reached⟩ := haveTokens.reaches (by simp) (isOutside.mono (Nat.le_add_right indent 2))
        (line + 1) tokens kept
      rw [opened_closed (by omega)] at reached
      have started : (free ⟨line, column, (valueText indent (.mapping (entry :: entries))).toList ++
          following⟩ tokens (indent :: indents) false).Reaches
          (atLine (line + 1) ((entriesText (indent + 2) false (entry :: entries)).toList ++ following)
            tokens (indent :: indents)) := by
        refine ⟨0, by simp [free, atLine, valueText], run_eq_of_settled ?_⟩
        simp only [valueText, String.toList_append, List.append_assoc]
        exact settled_nextLine
      refine ⟨line', (started.trans reached).trans ⟨0, by simp [atLine, free], fun rounds => ?_⟩⟩
      simpa using run_close isOutside (by omega : indent < indent + 2) rounds

/-- The tokens of entries are taken between the line of the first one and the next line outside of
them. -/
theorem EntriesHaveTokens.reaches : ∀ {entries : List (Yaml × Yaml)} {written : List Token},
    EntriesHaveTokens entries written → entries ≠ [] →
    ∀ {indent : Nat} {following : List Char}, IsOutside indent following →
    ∀ (line : Nat) (tokens : List Token) {indents : List Nat},
      (∀ inner ∈ indents.head?, inner ≤ indent) → ∃ line',
      (atLine line ((entriesText indent false entries).toList ++ following) tokens indents).Reaches
      (atLine line' following (written.reverse ++ (opened indent tokens indents).1)
        (opened indent tokens indents).2)
  | _, _, .nil, notEmpty, _, _, _, _, _, _, _ => absurd rfl notEmpty
  | _, _, @EntriesHaveTokens.cons key value entries valueTokens later plain short hasTokens haveTokens, _,
      indent, following, isOutside, line, tokens, indents, kept => by
      have outsideLater := haveTokens.isOutside isOutside
      obtain ⟨outer, isOpen⟩ := exists_opened indent tokens indents
      have atKey := reaches_key line tokens indents plain short
        (hasTokens.endsWord indent ((entriesText indent false entries).toList ++ following)) kept
      rw [isOpen, String.ofList_toList] at atKey
      obtain ⟨line', behindValue⟩ := hasTokens.reaches
        (Nat.le_add_right indent (key.toList.length + 1)) outsideLater line
        (.value :: .scalar true key :: .key :: (opened indent tokens indents).1) outer
      have behindEntry := atKey.trans behindValue
      -- The key has opened the mapping, so that the entries behind it find it open.
      rw [toList_entriesText, isOpen]
      simp only [List.append_assoc, List.cons_append]
      by_cases isLast : entries = []
      · subst isLast
        cases haveTokens
        exact ⟨line', by simpa [entriesText] using behindEntry⟩
      · obtain ⟨line'', reached⟩ := haveTokens.reaches isLast isOutside line'
          (valueTokens.reverse ++ .value :: .scalar true key :: .key :: (opened indent tokens indents).1)
          (by simp : ∀ inner ∈ (indent :: outer).head?, inner ≤ indent)
        rw [opened_open] at reached
        exact ⟨line'', by simpa using behindEntry.trans reached⟩

end

mutual

theorem HasTokens.arePrintable : ∀ {value : Yaml} {written : List Token}, HasTokens value written →
    ∀ indent, ArePrintable (valueText indent value).toList
  | _, _, .plain plain, indent => by
      have mark : isPrintable ' ' = true ∧ isPrintable '\n' = true := by decide
      have text : ArePrintable _ := plain.printable
      simp [valueText, mark, text]
  | _, _, .quoted text, indent => by
      have mark : isPrintable ' ' = true := by decide
      simp [valueText, mark, arePrintable_quotedText]
  | .mapping (_ :: _), _, .mapping haveTokens, indent => by
      have mark : isPrintable '\n' = true := by decide
      simp [valueText, mark, haveTokens.arePrintable (indent + 2)]

theorem EntriesHaveTokens.arePrintable : ∀ {entries : List (Yaml × Yaml)} {written : List Token},
    EntriesHaveTokens entries written →
    ∀ indent, ArePrintable (entriesText indent false entries).toList
  | _, _, .nil, _ => by simp [entriesText]
  | _, _, .cons plain _ hasTokens haveTokens, indent => by
      have mark : isPrintable ' ' = true ∧ isPrintable ':' = true := by decide
      rw [toList_entriesText]
      have key : ArePrintable _ := plain.printable
      simp [mark, key, hasTokens.arePrintable indent, haveTokens.arePrintable indent]

end

/-! The text of a whole document. -/

namespace Lexer

theorem run_end (rounds line : Nat) (tokens : List Token) :
    run (rounds + 1) (atLine line [] tokens [0]) = some (tokens.reverse ++ [.blockEnd]) := by
  rw [← List.reverse_cons]
  rfl

theorem run_documentEnd (rounds line : Nat) (tokens : List Token) :
    run (rounds + 2) (atLine line ['.', '.', '.', '\n'] tokens [0]) =
      some (tokens.reverse ++ [.blockEnd, .documentEnd]) := by
  have taken : run (rounds + 2) (atLine line ['.', '.', '.', '\n'] tokens [0]) =
      some (.documentEnd :: .blockEnd :: tokens).reverse := rfl
  simpa using taken

end Lexer

/-- The tokens of the entries of a document are taken before those of what ends the text. -/
theorem EntriesHaveTokens.tokens?_eq {entries : List (Yaml × Yaml)} {written : List Token}
    (haveTokens : EntriesHaveTokens entries written) (notEmpty : entries ≠ []) {text : String}
    {ending : List Char} (isText : text.toList = (entriesText 0 false entries).toList ++ ending)
    (printable : ArePrintable ending) (isOutside : IsOutside 0 ending) {least : Nat}
    (enough : least ≤ ending.length + 1) :
    ∃ rounds line, tokens? text =
      Lexer.run (rounds + least) (.atLine line ending (written.reverse ++ [.blockMappingStart]) [0]) := by
  have noneOpen : ∀ inner ∈ ([] : List Nat).head?, inner ≤ 0 := by simp
  obtain ⟨line, count, fewer, same⟩ := haveTokens.reaches notEmpty isOutside 0 [] noneOpen
  have allPrintable : ArePrintable text.toList := by
    simp [isText, haveTokens.arePrintable 0, printable]
  refine ⟨text.toList.length + 1 - count - least, line, ?_⟩
  rw [Yaml.tokens?_eq allPrintable, isText]
  refine Eq.trans ?_ (same _)
  rw [← isText] at fewer ⊢
  have rounds : text.toList.length + 1 - count - least + least + count = text.toList.length + 1 := by
    have : count + ending.length ≤ text.toList.length := fewer
    omega
  rw [rounds]
  rfl

theorem entriesText_begun (entries : List (Yaml × Yaml)) :
    entriesText 0 true entries = entriesText 0 false entries := by
  cases entries <;> rfl

/-- The text of a mapping has its tokens, and may have a mark behind them. -/
theorem tokens?_print {entry : Yaml × Yaml} {entries : List (Yaml × Yaml)} {written : List Token}
    (haveTokens : EntriesHaveTokens (entry :: entries) written) :
    ∃ marks, (∀ mark ∈ marks, mark = .documentEnd) ∧
      tokens? (print (.mapping (entry :: entries))) =
        some (.blockMappingStart :: (written ++ .blockEnd :: marks)) := by
  cases isOpen : leavesOpen false (.mapping (entry :: entries)) with
  | false =>
      have isText : (print (.mapping (entry :: entries))).toList =
          (entriesText 0 false (entry :: entries)).toList ++ [] := by
        simp [print, isOpen, inlineText, entriesText_begun]
      obtain ⟨rounds, line, same⟩ := haveTokens.tokens?_eq (by simp) isText .nil
        ⟨0, [], Nat.le_refl _, trivial, rfl⟩ (Nat.le_refl 1)
      refine ⟨[], by simp, ?_⟩
      rw [same, Lexer.run_end]
      simp
  | true =>
      have isText : (print (.mapping (entry :: entries))).toList =
          (entriesText 0 false (entry :: entries)).toList ++ ['.', '.', '.', '\n'] := by
        simp [print, isOpen, inlineText, entriesText_begun]
      have isRest : IsLineRest ['.', '.', '.', '\n'] := ⟨rfl, rfl, by decide⟩
      obtain ⟨rounds, line, same⟩ := haveTokens.tokens?_eq (by simp) isText
        (by simp [(by decide : isPrintable '.' = true), (by decide : isPrintable '\n' = true)])
        ⟨0, _, Nat.le_refl _, isRest, rfl⟩ (by decide : 2 ≤ 4 + 1)
      refine ⟨[.documentEnd], by simp, ?_⟩
      rw [same, Lexer.run_documentEnd]
      simp

/-! The reader on the tokens of a mapping. -/

namespace Read

variable {anchors : List (String × Yaml)} {handles : List (String × String)} {tokens : List Token}

theorem run_accept (token : Token) :
    (accept token).run ⟨token :: tokens, anchors, handles⟩ = some (true, ⟨tokens, anchors, handles⟩) := by
  simp [accept, peek, skip]

theorem run_accept_other {token next : Token} (differs : next ≠ token) :
    (accept token).run ⟨next :: tokens, anchors, handles⟩ =
      some (false, ⟨next :: tokens, anchors, handles⟩) := by
  simp [accept, peek, differs]

theorem run_expect (token : Token) :
    (expect token).run ⟨token :: tokens, anchors, handles⟩ = some ((), ⟨tokens, anchors, handles⟩) := by
  simp [expect, peek, skip]

theorem run_scalar (inBlock bareItems unquoted : Bool) (text : String) (rounds : Nat) :
    (value inBlock bareItems (rounds + 2)).run ⟨.scalar unquoted text :: tokens, anchors, handles⟩ =
      some (.scalar (if unquoted then .plain else .quoted) text, ⟨tokens, anchors, handles⟩) := by
  simp [value, content, peek, properties, anchor?, tag?, skip, name, unquotedForm]

theorem run_mapping (bareItems : Bool) (rounds : Nat) :
    (value true bareItems (rounds + 2)).run ⟨.blockMappingStart :: tokens, anchors, handles⟩ =
      ((entries rounds).run ⟨tokens, anchors, handles⟩).map fun read =>
        (.mapping read.1, read.2) := by
  cases read : (entries rounds).run ⟨tokens, anchors, handles⟩ <;>
    simp [value, content, peek, properties, anchor?, tag?, skip, name, read]

/-- A value stands where its first token is none that can only follow it. -/
theorem run_valueUnless {next : Token} {ends : List Token} (stands : next ∉ ends) (rounds : Nat) :
    (valueUnless true true ends (rounds + 1)).run ⟨next :: tokens, anchors, handles⟩ =
      (value true true rounds).run ⟨next :: tokens, anchors, handles⟩ := by
  simp [valueUnless, isNext, peek, stands]

/-- An entry is read from its key and the tokens of its value. -/
theorem run_entries_cons {key : String} {value : Yaml} {rest : List (Yaml × Yaml)}
    {behindValue later : List Token} {rounds : Nat}
    (readValue : (valueUnless true true [.key, .value, .blockEnd] (rounds + 3)).run
      ⟨tokens, anchors, handles⟩ = some (value, ⟨behindValue, anchors, handles⟩))
    (readRest : (entries (rounds + 3)).run ⟨behindValue, anchors, handles⟩ =
      some (rest, ⟨later, anchors, handles⟩)) :
    (entries (rounds + 4)).run
        ⟨.key :: .scalar true key :: .value :: tokens, anchors, handles⟩ =
      some ((.scalar .plain key, value) :: rest, ⟨later, anchors, handles⟩) := by
  have readKey : (valueUnless true true [.key, .value, .blockEnd] (rounds + 3)).run
      ⟨.scalar true key :: .value :: tokens, anchors, handles⟩ =
        some (.scalar .plain key, ⟨.value :: tokens, anchors, handles⟩) := by
    rw [run_valueUnless (by simp)]
    exact run_scalar true true true key rounds
  rw [entries]
  simp [run_accept, readKey, readValue, readRest]

theorem run_entries_nil (rounds : Nat) :
    (entries (rounds + 1)).run ⟨.blockEnd :: tokens, anchors, handles⟩ =
      some ([], ⟨tokens, anchors, handles⟩) := by
  simp [entries, run_accept_other, run_expect]

end Read

/-- The first token of a value is none that can only follow it. -/
theorem HasTokens.run_valueUnless {value : Yaml} {written : List Token}
    (hasTokens : HasTokens value written) (rest : List Token) {anchors : List (String × Yaml)}
    {handles : List (String × String)} (rounds : Nat) :
    (Read.valueUnless true true [.key, .value, .blockEnd] (rounds + 1)).run
        ⟨written ++ rest, anchors, handles⟩ =
      (Read.value true true rounds).run ⟨written ++ rest, anchors, handles⟩ := by
  cases hasTokens <;> exact Read.run_valueUnless (by simp) rounds

mutual

/-- A value is read from its tokens. -/
theorem HasTokens.run_value : ∀ {value : Yaml} {written : List Token}, HasTokens value written →
    ∀ (bareItems : Bool) (rest : List Token) {anchors : List (String × Yaml)}
      {handles : List (String × String)} {rounds : Nat}, 3 * written.length ≤ rounds →
      (Read.value true bareItems rounds).run ⟨written ++ rest, anchors, handles⟩ =
        some (value, ⟨rest, anchors, handles⟩)
  | _, _, .plain _, _, _, _, _, rounds + 2, _ => Read.run_scalar true _ true _ rounds
  | _, _, .quoted _, _, _, _, _, rounds + 2, _ => Read.run_scalar true _ false _ rounds
  | _, _, @HasTokens.mapping entry entries tokens haveTokens, bareItems, rest, _, _, rounds, enough => by
      simp only [List.length_cons, List.length_append, List.length_nil] at enough
      obtain ⟨rounds, rfl⟩ : ∃ fewer, rounds = fewer + 2 := ⟨rounds - 2, by omega⟩
      have forEntries : 3 * tokens.length + 1 ≤ rounds := by omega
      rw [List.cons_append, List.append_assoc, List.singleton_append, Read.run_mapping,
        haveTokens.run_entries rest forEntries]
      rfl

/-- Entries are read from their tokens. -/
theorem EntriesHaveTokens.run_entries : ∀ {entries : List (Yaml × Yaml)} {written : List Token},
    EntriesHaveTokens entries written →
    ∀ (rest : List Token) {anchors : List (String × Yaml)} {handles : List (String × String)}
      {rounds : Nat}, 3 * written.length + 1 ≤ rounds →
      (Read.entries rounds).run ⟨written ++ .blockEnd :: rest, anchors, handles⟩ =
        some (entries, ⟨rest, anchors, handles⟩)
  | _, _, .nil, _, _, _, rounds + 1, _ => Read.run_entries_nil rounds
  | _, _, @EntriesHaveTokens.cons key value entries tokens later _ _ hasTokens haveTokens, rest, _, _,
      rounds, enough => by
      simp only [List.length_cons, List.length_append] at enough
      obtain ⟨rounds, rfl⟩ : ∃ fewer, rounds = fewer + 4 := ⟨rounds - 4, by omega⟩
      have forValue : 3 * tokens.length ≤ rounds + 2 := by omega
      have forRest : 3 * later.length + 1 ≤ rounds + 3 := by omega
      simp only [List.cons_append, List.append_assoc]
      refine Read.run_entries_cons ?_ (haveTokens.run_entries rest forRest)
      rw [hasTokens.run_valueUnless, hasTokens.run_value true _ forValue]

end

/-- The tree of a mapping is found in its tokens. -/
theorem ofTokens?_eq {entry : Yaml × Yaml} {entries : List (Yaml × Yaml)} {written marks : List Token}
    (haveTokens : EntriesHaveTokens (entry :: entries) written)
    (areMarks : ∀ mark ∈ marks, mark = .documentEnd) :
    ofTokens? (.blockMappingStart :: (written ++ .blockEnd :: marks)) =
      some (.mapping (entry :: entries)) := by
  have read {rounds : Nat} (enough : 3 * (written.length + 2) ≤ rounds)
      (handles : List (String × String)) :
      (Read.value true false rounds).run
          ⟨.blockMappingStart :: (written ++ .blockEnd :: marks), [], handles⟩ =
        some (.mapping (entry :: entries), ⟨marks, [], handles⟩) := by
    have isText : .blockMappingStart :: (written ++ .blockEnd :: marks) =
        .blockMappingStart :: (written ++ [Token.blockEnd]) ++ marks := by simp
    rw [isText]
    exact (HasTokens.mapping haveTokens).run_value false marks (by simpa using enough)
  have enough : 3 * (written.length + 2) ≤ 4 * (written.length + (marks.length + 1) + 1) + 4 := by omega
  simpa [ofTokens?, Read.directives, read enough] using areMarks

/-- A mapping is read back from its text. -/
theorem parse?_print {entries : List (Yaml × Yaml)} {written : List Token}
    (hasTokens : HasTokens (.mapping entries) written) :
    parse? (print (.mapping entries)) = some (.mapping entries) := by
  cases hasTokens with
  | mapping haveTokens =>
      obtain ⟨marks, areMarks, tokens⟩ := tokens?_print haveTokens
      rw [parse?, tokens, Option.bind_some, ofTokens?_eq haveTokens areMarks]

end ForwardTaint.Yaml
