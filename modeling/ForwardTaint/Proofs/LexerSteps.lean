import ForwardTaint.Proofs.BlockScalars
import ForwardTaint.Proofs.QuotedScalars
import ForwardTaint.Yaml.Token

/-!
What the lexer takes in one round outside of flow collections: the key of an entry with its colon, or the
scalar behind one up to the next line.  It closes a block in front of a line that is indented less.
-/

namespace ForwardTaint.Yaml

/-! Blanks and line breaks between tokens. -/

theorem passSpace_spaces (keyAllowed : Bool) (line column columns : Nat) (rest : List Char) :
    Lexer.passSpace false keyAllowed false line column (List.replicate columns ' ' ++ rest) =
      Lexer.passSpace false keyAllowed false line (column + columns) rest := by
  induction columns generalizing column with
  | zero => rfl
  | succ columns inductionHypothesis =>
      rw [List.replicate_succ, List.cons_append, Lexer.passSpace, if_neg (by decide),
        if_neg (by decide), if_pos (by simp), inductionHypothesis, Nat.add_assoc, Nat.add_comm 1]

theorem passSpace_lineRest {next : List Char} (isRest : IsLineRest next) (keyAllowed : Bool)
    (line column : Nat) :
    Lexer.passSpace false keyAllowed false line column next = (keyAllowed, ⟨line, column, next⟩) := by
  cases next with
  | nil => rfl
  | cons char rest =>
      obtain ⟨notBlank, notBreak, notComment⟩ : IsSolid char := isRest
      simp only [isBlank, Bool.or_eq_false_iff, beq_eq_false_iff_ne] at notBlank
      simp [Lexer.passSpace, notBreak, notComment, notBlank]

namespace Lexer

/-- The lexer outside of flow collections where no key can have begun. -/
def free (cursor : Cursor) (tokens : List Token) (indents : List Nat) (keyAllowed : Bool) : Lexer :=
  ⟨cursor, tokens, tokens.length, indents, keyAllowed, none, []⟩

/-- The lexer in front of a line. -/
def atLine (line : Nat) (rest : List Char) (tokens : List Token) (indents : List Nat) : Lexer :=
  free ⟨line, 0, rest⟩ tokens indents true

/-- Taking tokens leads from one state of the lexer to another one, at most one round a character. -/
def Reaches (before after : Lexer) : Prop :=
  ∃ count, count + after.cursor.rest.length ≤ before.cursor.rest.length ∧
    ∀ rounds, run (rounds + count) before = run rounds after

theorem Reaches.trans {before between after : Lexer} (first : before.Reaches between)
    (second : between.Reaches after) : before.Reaches after := by
  obtain ⟨count, fewer, same⟩ := first
  obtain ⟨count', fewer', same'⟩ := second
  refine ⟨count' + count, by omega, fun rounds => ?_⟩
  rw [← Nat.add_assoc, same, same']

variable {line column : Nat} {rest : List Char} {tokens : List Token} {indents : List Nat}
  {keyAllowed : Bool}

/-- The lexer at the next token, with the blocks closed that end before it. -/
def settled (lexer : Lexer) : Lexer :=
  let lexer := lexer.skipSpace
  lexer.unroll (· ≤ lexer.cursor.column)

/-- The next round on a lexer at the next token. -/
def next? (rounds : Nat) (lexer : Lexer) : Option (List Token) :=
  match lexer.cursor.rest with
  | [] => lexer.unrollAll.dropKey?.map fun lexer => lexer.tokens.reverse
  | char :: rest => (lexer.takeToken? char rest).bind (run rounds)

theorem run_free (rounds : Nat) (cursor : Cursor) :
    run (rounds + 1) (free cursor tokens indents keyAllowed) =
      next? rounds (free cursor tokens indents keyAllowed).settled := by
  rfl

theorem run_settled {lexer : Lexer} (skipped : lexer.skipSpace = lexer)
    (fresh : lexer.dropStale? = some lexer) (kept : lexer.unroll (· ≤ lexer.cursor.column) = lexer)
    (rounds : Nat) : run (rounds + 1) lexer = next? rounds lexer := by
  rw [run, skipped, fresh]
  simp only [Option.bind_eq_bind, Option.bind_some, kept, next?, Option.map_eq_bind]
  cases lexer.cursor.rest <;> rfl

/-- Two states that agree at the next token agree on all tokens. -/
theorem run_eq_of_settled {cursor cursor' : Cursor} {tokens' : List Token} {indents' : List Nat}
    {keyAllowed' : Bool}
    (same : (free cursor tokens indents keyAllowed).settled =
      (free cursor' tokens' indents' keyAllowed').settled) (rounds : Nat) :
    run rounds (free cursor tokens indents keyAllowed) =
      run rounds (free cursor' tokens' indents' keyAllowed') := by
  cases rounds with
  | zero => rfl
  | succ rounds => rw [run_free, run_free, same]

theorem unroll_free (cursor : Cursor) (kept : ∀ indent ∈ indents.head?, indent ≤ cursor.column) :
    (free cursor tokens indents keyAllowed).unroll (· ≤ cursor.column) =
      free cursor tokens indents keyAllowed := by
  cases indents with
  | nil => rfl
  | cons indent indents =>
      simp [unroll, inFlow, free, closeBlocks, kept indent rfl]

theorem settled_spaces (columns : Nat) :
    (free ⟨line, column, List.replicate columns ' ' ++ rest⟩ tokens indents keyAllowed).settled =
      (free ⟨line, column + columns, rest⟩ tokens indents keyAllowed).settled := by
  simp [settled, skipSpace, free, inFlow, passSpace_spaces]

theorem settled_nextLine :
    (free ⟨line, column, '\n' :: rest⟩ tokens indents keyAllowed).settled =
      (atLine (line + 1) rest tokens indents).settled := by
  have isBreak_ : isBreak '\n' = true := by decide
  simp [settled, skipSpace, atLine, free, inFlow, passSpace, isBreak_]

theorem skipSpace_free {next : List Char} (isRest : IsLineRest next) :
    (free ⟨line, column, next⟩ tokens indents keyAllowed).skipSpace =
      free ⟨line, column, next⟩ tokens indents keyAllowed := by
  simp [skipSpace, free, inFlow, passSpace_lineRest isRest]

theorem settled_free {next : List Char} (isRest : IsLineRest next)
    (kept : ∀ indent ∈ indents.head?, indent ≤ column) :
    (free ⟨line, column, next⟩ tokens indents keyAllowed).settled =
      free ⟨line, column, next⟩ tokens indents keyAllowed := by
  rw [settled, skipSpace_free isRest]
  exact unroll_free _ kept

/-- A block ends in front of a line that is indented less. -/
theorem settled_close {next : List Char} (isRest : IsLineRest next) {inner : Nat}
    (less : column < inner) :
    (free ⟨line, column, next⟩ tokens (inner :: indents) keyAllowed).settled =
      (free ⟨line, column, next⟩ (.blockEnd :: tokens) indents keyAllowed).settled := by
  rw [settled, settled, skipSpace_free isRest, skipSpace_free isRest]
  simp only [unroll, inFlow, free, closeBlocks, Nat.not_le_of_lt less, List.isEmpty_nil, Bool.not_true,
    Bool.false_eq_true, if_false, decide_false, List.length_cons]
  rfl

end Lexer

/-- What follows a block: a line that is indented by at most so many columns, or nothing. -/
def IsOutside (limit : Nat) (rest : List Char) : Prop :=
  ∃ columns next, columns ≤ limit ∧ IsLineRest next ∧ rest = List.replicate columns ' ' ++ next

theorem IsOutside.mono {limit limit' : Nat} (le : limit ≤ limit') {rest : List Char}
    (isOutside : IsOutside limit rest) : IsOutside limit' rest := by
  obtain ⟨columns, next, within, isRest, isText⟩ := isOutside
  exact ⟨columns, next, Nat.le_trans within le, isRest, isText⟩

namespace IsPlain

variable {chars : List Char}

theorem isLineRest (plain : IsPlain chars) (stop : List Char) : IsLineRest (chars ++ stop) := by
  obtain ⟨char, rest, rfl⟩ := List.exists_cons_of_ne_nil plain.notEmpty
  have begins := plain.begins
  simp only [hasLeadingMark, Bool.or_eq_false_iff] at begins
  refine ⟨?_, plain.inLine char List.mem_cons_self, ?_⟩
  · rw [Bool.eq_false_iff, ne_eq, isBlank_iff (plain.printable char List.mem_cons_self)]
    exact fun isSpace => plain.first (by simp [isSpace])
  · rintro rfl
    exact absurd begins.1.1.1 (by decide)

section FirstChar

variable {char : Char} {rest : List Char} (plain : IsPlain (char :: rest)) (stop : List Char)

include plain

theorem ne_mark (mark : Char) (isMark : ",[]\x7b\x7d#&*!|>'\"%@\x60".toList.contains mark = true) :
    char ≠ mark := by
  have begins := plain.begins
  simp only [hasLeadingMark, Bool.or_eq_false_iff] at begins
  rintro rfl
  exact Bool.false_ne_true (begins.1.1.1.symm.trans isMark)

/-- A sign that would be a mark at the end of a word is not at its end. -/
theorem endsWord_of_sign (isSign : char = '?' ∨ char = ':' ∨ char = '-') :
    endsWord (rest ++ stop) = false := by
  have begins := plain.begins
  simp only [hasLeadingMark, Bool.or_eq_false_iff] at begins
  have within : endsWord rest = false := by
    rcases isSign with rfl | rfl | rfl <;> simpa using begins.1.1.2
  have notEmpty : rest ≠ [] := by
    rintro rfl
    exact absurd within (by decide)
  rw [endsWord_append notEmpty, within]

theorem startsPlain_eq : Lexer.startsPlain false char (rest ++ stop) = true := by
  have notBlank : isBlank char = false := (plain.isLineRest stop).1
  have goesOn := plain.endsWord_of_sign stop
  unfold Lexer.startsPlain
  rw [if_neg (by simp [notBlank])]
  split
  case isTrue isDash =>
    have notBlank := goesOn (.inr (.inr isDash))
    cases further : rest ++ stop with
    | nil => rfl
    | cons next _ =>
        rw [further, endsWord, Bool.or_eq_false_iff] at notBlank
        simp [notBlank.1]
  case isFalse =>
    split
    case isTrue isSign =>
      simp only [Bool.or_eq_true, decide_eq_true_eq] at isSign
      simp [goesOn (isSign.elim .inl fun isColon => .inr (.inl isColon))]
    case isFalse =>
      have begins := plain.begins
      simp only [hasLeadingMark, Bool.or_eq_false_iff] at begins
      simpa using begins.1.1.1

/-- The token that begins with a plain text outside of flow collections is a plain scalar. -/
theorem takeToken?_eq {lexer : Lexer} (outside : lexer.inFlow = false)
    (notMark : isDocumentMark (char :: (rest ++ stop)) = false) :
    lexer.takeToken? char (rest ++ stop) = lexer.takePlain? := by
  have goesOn := plain.endsWord_of_sign stop
  have noDash : (char == '-' && endsWord (rest ++ stop)) = false := by
    simpa using fun isDash => goesOn (.inr (.inr isDash))
  have noQuestion : (char == '?' && endsWord (rest ++ stop)) = false := by
    simpa using fun isQuestion => goesOn (.inl isQuestion)
  have noColon : (char == ':' && endsWord (rest ++ stop)) = false := by
    simpa using fun isColon => goesOn (.inr (.inl isColon))
  simp [Lexer.takeToken?, outside, notMark, noDash, noQuestion, noColon, plain.startsPlain_eq stop,
    plain.ne_mark '%' (by decide), plain.ne_mark '[' (by decide), plain.ne_mark '\x7b' (by decide),
    plain.ne_mark ']' (by decide), plain.ne_mark '\x7d' (by decide), plain.ne_mark ',' (by decide),
    plain.ne_mark '*' (by decide), plain.ne_mark '&' (by decide), plain.ne_mark '!' (by decide),
    plain.ne_mark '|' (by decide), plain.ne_mark '>' (by decide), plain.ne_mark '\'' (by decide),
    plain.ne_mark '"' (by decide)]

end FirstChar

end IsPlain

namespace Lexer

variable {line column : Nat} {rest : List Char} {tokens : List Token} {indents : List Nat}
  {keyAllowed : Bool}

theorem run_close {limit inner : Nat} (isOutside : IsOutside limit rest) (less : limit < inner)
    (rounds : Nat) :
    run rounds (atLine line rest tokens (inner :: indents)) =
      run rounds (atLine line rest (.blockEnd :: tokens) indents) := by
  obtain ⟨columns, next, within, isRest, rfl⟩ := isOutside
  apply run_eq_of_settled
  rw [settled_spaces, settled_spaces, settled_close isRest (by omega)]

theorem run_indented (columns : Nat) (rounds : Nat) :
    run rounds (free ⟨line, columns, rest⟩ tokens indents true) =
      run rounds (atLine line (List.replicate columns ' ' ++ rest) tokens indents) := by
  apply run_eq_of_settled
  rw [settled_spaces, Nat.zero_add]

/-- One round takes a token that begins with the next character. -/
theorem reaches_token {char : Char} {after final : Lexer} (columns : Nat)
    (isRest : IsLineRest (char :: rest)) (kept : ∀ indent ∈ indents.head?, indent ≤ column + columns)
    (taken : (free ⟨line, column + columns, char :: rest⟩ tokens indents keyAllowed).takeToken? char rest =
      some after)
    (same : ∀ rounds, run rounds after = run rounds final)
    (shorter : final.cursor.rest.length ≤ rest.length) :
    (free ⟨line, column, List.replicate columns ' ' ++ char :: rest⟩ tokens indents keyAllowed).Reaches
      final := by
  refine ⟨1, ?_, fun rounds => ?_⟩
  · simp only [free, List.length_append, List.length_cons]
    omega
  · rw [run_free, settled_spaces, settled_free isRest kept, next?]
    simp only [free] at taken ⊢
    rw [taken, Option.bind_some, same]

/-! Scalars behind the colon of an entry. -/

variable (line) (tokens) (indents) {indent : Nat} {chars following : List Char}

theorem reaches_plain (plain : IsPlain chars) (behind : indent ≤ column)
    (isOutside : IsOutside indent following) :
    (free ⟨line, column, ' ' :: (chars ++ '\n' :: following)⟩ tokens (indent :: indents) false).Reaches
      (atLine (line + 1) following (.scalar true (String.ofList chars) :: tokens)
        (indent :: indents)) := by
  obtain ⟨columns, next, within, isRest, rfl⟩ := isOutside
  obtain ⟨char, rest, rfl⟩ := List.exists_cons_of_ne_nil plain.notEmpty
  have read : readPlain false (indent + 1) ⟨[], .empty, line, column + 1⟩
      (char :: rest ++ '\n' :: (List.replicate columns ' ' ++ next)) = _ :=
    plain.readPlain_value isRest (Nat.lt_succ_of_le within) (Nat.succ_le_succ behind)
  rw [List.cons_append] at read ⊢
  refine reaches_token 1 (plain.isLineRest _) (by simpa using Nat.le_succ_of_le behind) ?_
    (run_indented columns) (by simp only [atLine, free, List.length_append, List.length_cons]; omega)
  rw [plain.takeToken?_eq _ rfl (plain.isDocumentMark_eq_false (by decide) (by decide))]
  simp [takePlain?, saveKey?, free, ScalarText.start, read, takeScalar, push, inFlow]

/-- The character that stands around a quoted scalar. -/
def quote (double : Bool) : Char := if double then '"' else '\''

/-- A quoted scalar is taken up to the end of its line. -/
theorem reaches_quoted {double : Bool} {quoted : List Char} {line' column' : Nat}
    (behind : indent ≤ column)
    (read : readQuoted double .reading ⟨[], .empty, line, column + 1 + 1⟩
      (quoted ++ '\n' :: following) =
        some (String.ofList chars, ⟨line', column', '\n' :: following⟩)) :
    (free ⟨line, column, ' ' :: quote double :: (quoted ++ '\n' :: following)⟩ tokens
        (indent :: indents) false).Reaches
      (atLine (line' + 1) following (.scalar false (String.ofList chars) :: tokens)
        (indent :: indents)) := by
  have taken : (free ⟨line, column + 1, quote double :: (quoted ++ '\n' :: following)⟩ tokens
      (indent :: indents) false).takeToken? (quote double) (quoted ++ '\n' :: following) =
        some (free ⟨line', column', '\n' :: following⟩
          (.scalar false (String.ofList chars) :: tokens) (indent :: indents) false) := by
    cases double <;>
      simp [quote, takeToken?, takeQuoted?, saveKey?, free, inFlow, Cursor.skip, ScalarText.start, read,
        takeScalar, push]
  refine reaches_token 1 ?_ (by simpa using Nat.le_succ_of_le behind) taken
    (run_eq_of_settled settled_nextLine)
    (by simp only [atLine, free, List.length_append, List.length_cons]; omega)
  cases double <;> exact ⟨rfl, rfl, by decide⟩

/-- A block is taken up to the end of its last line. -/
theorem reaches_block (isBlock_ : isBlock chars = true) (behind : indent ≤ column)
    (isOutside : IsOutside indent following) :
    ∃ line', (free ⟨line, column, ' ' :: (blockText (indent + 2) chars ++ following)⟩ tokens
        (indent :: indents) false).Reaches
      (atLine line' following (.scalar false (String.ofList chars) :: tokens) (indent :: indents)) := by
  obtain ⟨columns, next, within, isRest, rfl⟩ := isOutside
  obtain ⟨line', read⟩ := readBlockScalar_blockText isBlock_ within isRest line (column + 1 + 1)
  obtain ⟨lines, isText⟩ : ∃ lines, blockText (indent + 2) chars = '|' :: lines := ⟨_, rfl⟩
  rw [isText, List.tail_cons] at read
  have taken : (free ⟨line, column + 1, '|' :: (lines ++ (List.replicate columns ' ' ++ next))⟩ tokens
      (indent :: indents) false).takeToken? '|' (lines ++ (List.replicate columns ' ' ++ next)) =
        some (free ⟨line', columns, next⟩ (.scalar false (String.ofList chars) :: tokens)
          (indent :: indents) true) := by
    simp [takeToken?, takeBlockScalar?, dropKey?, free, inFlow, Cursor.skip, read, takeScalar, push,
      isDocumentMark]
  rw [isText, List.cons_append]
  exact ⟨line', reaches_token 1 ⟨rfl, rfl, by decide⟩ (by simpa using Nat.le_succ_of_le behind) taken
    (run_indented columns)
    (by simp only [atLine, free, List.length_append, List.length_cons]; omega)⟩

/-- A text in quotes or as a block is taken up to the end of its last line. -/
theorem reaches_quotedText (text : String) (behind : indent ≤ column)
    (isOutside : IsOutside indent following) :
    ∃ line', (free ⟨line, column, ' ' :: ((quotedText (indent + 2) text).toList ++ following)⟩ tokens
        (indent :: indents) false).Reaches
      (atLine line' following (.scalar false text :: tokens) (indent :: indents)) := by
  have isText : String.ofList text.toList = text := String.ofList_toList
  rw [← isText]
  generalize text.toList = chars
  simp only [quotedText, String.toList_ofList]
  split
  case isTrue isBlock_ => exact reaches_block line tokens indents isBlock_ behind isOutside
  case isFalse =>
    split
    case isTrue allowed =>
      simp only [Bool.and_eq_true, Bool.not_eq_true', List.contains_eq_mem, decide_eq_false_iff_not]
        at allowed
      obtain ⟨line', column', read⟩ := readQuoted_singleQuoted (Nat.succ_pos (indent + 1)) allowed.2
        allowed.1 (Nat.succ_ne_zero (column + 1)) following
      have isQuoted : singleQuoted (indent + 2) chars =
        quote false :: (singleQuoted (indent + 2) chars).tail := rfl
      rw [isQuoted, List.append_assoc, List.cons_append]
      exact ⟨line' + 1, reaches_quoted line tokens indents behind read⟩
    case isFalse =>
      obtain ⟨line', column', read⟩ := readQuoted_doubleQuoted chars (Nat.succ_ne_zero (column + 1))
        ('\n' :: following)
      have isQuoted : doubleQuoted chars = quote true :: (doubleQuoted chars).tail := rfl
      rw [isQuoted, List.append_assoc, List.cons_append]
      exact ⟨line' + 1, reaches_quoted line tokens indents behind read⟩

/-! Keys of entries. -/

/-- The tokens and the columns of the open blocks once there is a mapping at a column. -/
def opened (column : Nat) (tokens : List Token) (indents : List Nat) : List Token × List Nat :=
  if indents.head? = some column then (tokens, indents)
  else (.blockMappingStart :: tokens, column :: indents)

/-- The lexer behind a plain text that may be a key. -/
def behindKey (line column length : Nat) (text : String) (rest : List Char) (tokens : List Token)
    (indents : List Nat) : Lexer :=
  ⟨⟨line, column + length, rest⟩, .scalar true text :: tokens, tokens.length + 1, indents, false,
    some ⟨tokens.length, line, column, indents.head? == some column⟩, []⟩

theorem takePlain?_key (plain : IsPlain chars) (ends : endsWord rest = true)
    (kept : ∀ inner ∈ indents.head?, inner ≤ column) :
    (free ⟨line, column, chars ++ ':' :: rest⟩ tokens indents true).takePlain? =
      some (behindKey line column chars.length (String.ofList chars) (':' :: rest) tokens indents) := by
  have indented : indents.head?.elim 0 (· + 1) ≤ column + 1 := by
    cases indents with
    | nil => exact Nat.zero_le _
    | cons inner _ => exact Nat.succ_le_succ (kept inner rfl)
  have read : readPlain false _ ⟨[], .empty, line, column⟩ (chars ++ ':' :: rest) = _ :=
    plain.readPlain_key ends indented
  simp [takePlain?, saveKey?, dropKey?, free, inFlow, ScalarText.start, read, takeScalar, push, behindKey]

theorem roll_eq_opened {lexer : Lexer} (outside : lexer.inFlow = false)
    (kept : ∀ inner ∈ lexer.indents.head?, inner ≤ column) (position : Nat) :
    lexer.roll column position .blockMappingStart =
      if lexer.indents.head? = some column then lexer
      else { lexer.insert position [.blockMappingStart] with indents := column :: lexer.indents } := by
  have isOpen : lexer.indents.head?.any (column ≤ ·) = decide (lexer.indents.head? = some column) := by
    cases head : lexer.indents.head? with
    | none => rfl
    | some inner =>
        have := kept inner head
        simp only [Option.any_some, Option.some.injEq, decide_eq_decide]
        omega
  simp [roll, outside, isOpen]

theorem takeColon?_behindKey {length : Nat} {text : String}
    (kept : ∀ inner ∈ indents.head?, inner ≤ column) :
    (behindKey line column length text (':' :: rest) tokens indents).takeColon? =
      some (free ⟨line, column + length + 1, rest⟩
        (.value :: .scalar true text :: .key :: (opened column tokens indents).1)
        (opened column tokens indents).2 false) := by
  simp only [takeColon?, behindKey]
  rw [roll_eq_opened rfl kept]
  have one : tokens.length + 1 - tokens.length = 1 := by omega
  have two : tokens.length + 1 + 1 - tokens.length = 2 := by omega
  by_cases isOpen : indents.head? = some column <;>
    simp [insert, opened, isOpen, one, two, take, push, skip, Cursor.skip, free]

/-- Nothing is between a key and its colon. -/
theorem run_behindKey {length : Nat} {text : String} (short : length ≤ 1024)
    (ends : endsWord rest = true) (kept : ∀ inner ∈ indents.head?, inner ≤ column) (rounds : Nat) :
    run (rounds + 1) (behindKey line column length text (':' :: rest) tokens indents) =
      run rounds (free ⟨line, column + length + 1, rest⟩
        (.value :: .scalar true text :: .key :: (opened column tokens indents).1)
        (opened column tokens indents).2 false) := by
  have isRest : IsLineRest (':' :: rest) := ⟨rfl, rfl, by decide⟩
  have skipped : (behindKey line column length text (':' :: rest) tokens indents).skipSpace =
      behindKey line column length text (':' :: rest) tokens indents := by
    simp [skipSpace, behindKey, inFlow, passSpace_lineRest isRest]
  have fresh : (behindKey line column length text (':' :: rest) tokens indents).dropStale? =
      some (behindKey line column length text (':' :: rest) tokens indents) := by
    simp [dropStale?, behindKey, freshKey?, Nat.not_lt_of_le short]
  have within : (behindKey line column length text (':' :: rest) tokens indents).unroll
      (· ≤ column + length) = behindKey line column length text (':' :: rest) tokens indents := by
    cases indents with
    | nil => rfl
    | cons inner _ =>
        have : inner ≤ column + length := Nat.le_add_right_of_le (kept inner rfl)
        simp [unroll, inFlow, behindKey, closeBlocks, this]
  have taken : (behindKey line column length text (':' :: rest) tokens indents).takeToken? ':' rest =
      (behindKey line column length text (':' :: rest) tokens indents).takeColon? := by
    simp [takeToken?, isDocumentMark, ends]
  rw [run_settled skipped fresh within, next?]
  simp only [behindKey] at taken ⊢
  rw [taken, ← behindKey, takeColon?_behindKey line tokens indents kept, Option.bind_some]

theorem opened_open (column : Nat) (tokens : List Token) (indents : List Nat) :
    opened column tokens (column :: indents) = (tokens, column :: indents) := if_pos rfl

theorem opened_closed {inner column : Nat} (less : inner < column) (tokens : List Token)
    (indents : List Nat) :
    opened column tokens (inner :: indents) =
      (.blockMappingStart :: tokens, column :: inner :: indents) :=
  if_neg (by simpa using Nat.ne_of_lt less)

theorem exists_opened (column : Nat) (tokens : List Token) (indents : List Nat) :
    ∃ outer, (opened column tokens indents).2 = column :: outer := by
  unfold opened
  split
  case isTrue isOpen => exact List.head?_eq_some_iff.1 isOpen
  case isFalse => exact ⟨indents, rfl⟩

/-- A plain text in front of a colon is taken as the key of an entry. -/
theorem reaches_key (plain : IsPlain chars) (short : chars.length ≤ 1024) (ends : endsWord rest = true)
    (kept : ∀ inner ∈ indents.head?, inner ≤ column) :
    (atLine line (List.replicate column ' ' ++ (chars ++ ':' :: rest)) tokens indents).Reaches
      (free ⟨line, column + chars.length + 1, rest⟩
        (.value :: .scalar true (String.ofList chars) :: .key :: (opened column tokens indents).1)
        (opened column tokens indents).2 false) := by
  have toColon : (atLine line (List.replicate column ' ' ++ (chars ++ ':' :: rest)) tokens indents).Reaches
      (behindKey line column chars.length (String.ofList chars) (':' :: rest) tokens indents) := by
    have taken := takePlain?_key line tokens indents plain ends kept
    obtain ⟨char, chars, rfl⟩ := List.exists_cons_of_ne_nil plain.notEmpty
    rw [List.cons_append] at taken ⊢
    refine reaches_token column (plain.isLineRest _) (by simpa using kept) ?_ (fun _ => rfl)
      (by simp only [behindKey, List.length_append]; omega)
    rw [plain.takeToken?_eq _ rfl (plain.isDocumentMark_eq_false (by decide) (by decide)), Nat.zero_add]
    exact taken
  exact toColon.trans
    ⟨1, Nat.add_comm _ _ ▸ Nat.le_refl _, run_behindKey line tokens indents short ends kept⟩

end Lexer

end ForwardTaint.Yaml
