import ForwardTaint.Proofs.PrintedMappings
import ForwardTaint.Yaml.Record

/-!
Records are read as they are written.  Numbers, truth values and texts keep their meaning as scalars, and a
record holds those of its fields that have a value under their names.
-/

namespace ForwardTaint.Yaml

/-! Numbers. -/

/-- What holds of the ten digits holds of each of them. -/
theorem forall_isDigit (test : Char → Bool) (holds : ∀ digit < 10, test (Nat.digitChar digit) = true)
    {char : Char} (isDigit : char.isDigit = true) : test char = true := by
  simp only [Char.isDigit, Bool.and_eq_true, decide_eq_true_eq, ge_iff_le, UInt32.le_iff_toNat_le]
    at isDigit
  have least : 48 ≤ char.toNat := isDigit.1
  have greatest : char.toNat ≤ 57 := isDigit.2
  have numbers : ∀ digit < 10, (Nat.digitChar digit).toNat = 48 + digit := by decide
  have isChar : Nat.digitChar (char.toNat - 48) = char := by
    apply Char.toNat_inj.1
    rw [numbers _ (by omega)]
    omega
  rw [← isChar]
  exact holds _ (by omega)

theorem hexValue?_of_isDigit {char : Char} (isDigit : char.isDigit = true) :
    Json.hexValue? char = some (char.toNat - '0'.toNat) ∧ char.toNat - '0'.toNat < 10 := by
  refine ⟨if_pos isDigit, ?_⟩
  simpa using forall_isDigit (fun digit => digit.toNat - '0'.toNat < 10) (by decide) isDigit

theorem digitsIn?_eq {digits : List Char} (notEmpty : digits ≠ [])
    (areDigits : ∀ digit ∈ digits, digit.isDigit = true) :
    digitsIn? 10 digits = some (Nat.ofDigitChars 10 digits 0) := by
  rw [digitsIn?, if_neg (by simpa using notEmpty)]
  clear notEmpty
  generalize (0 : Nat) = value
  induction digits generalizing value with
  | nil => rfl
  | cons digit digits inductionHypothesis =>
      obtain ⟨isDigit, areDigits⟩ := List.forall_mem_cons.1 areDigits
      obtain ⟨means, small⟩ := hexValue?_of_isDigit isDigit
      rw [List.foldlM_cons, means]
      simp only [if_pos small]
      exact inductionHypothesis areDigits _

theorem areDigits_toDigits (value : Nat) : ∀ digit ∈ Nat.toDigits 10 value, digit.isDigit = true :=
  fun _ => Nat.isDigit_of_mem_toDigits (by decide) (by decide)

/-- Only zero begins with a zero. -/
theorem eq_zero_of_toDigits {value : Nat} {rest : List Char}
    (isZero : Nat.toDigits 10 value = '0' :: rest) : value = 0 := by
  induction value using Nat.strongRecOn generalizing rest with
  | ind value inductionHypothesis =>
      rw [Nat.toDigits_eq_if (by decide)] at isZero
      split at isZero
      case isTrue small =>
        have onlyZero : ∀ digit < 10, Nat.digitChar digit = '0' → digit = 0 := by decide
        exact onlyZero value small (List.cons.inj isZero).1
      case isFalse large =>
        obtain ⟨first, later, isFirst⟩ := List.exists_cons_of_ne_nil
          (Nat.toDigits_ne_nil : Nat.toDigits 10 (value / 10) ≠ [])
        rw [isFirst, List.cons_append] at isZero
        rw [(List.cons.inj isZero).1] at isFirst
        have := inductionHypothesis (value / 10) (by omega) isFirst
        omega

/-- Digits behind a leading zero are not those of a number. -/
theorem toDigits_ne (value : Nat) (next : Char) (rest : List Char) :
    Nat.toDigits 10 value ≠ '0' :: next :: rest := by
  intro isZero
  rw [eq_zero_of_toDigits isZero] at isZero
  cases isZero

theorem withoutSign_toDigits (value : Nat) :
    withoutSign (Nat.toDigits 10 value) = Nat.toDigits 10 value := by
  have areDigits := areDigits_toDigits value
  unfold withoutSign
  split
  case h_1 isDigits => exact absurd (areDigits _ (isDigits ▸ List.mem_cons_self)) (by decide)
  case h_2 isDigits => exact absurd (areDigits _ (isDigits ▸ List.mem_cons_self)) (by decide)
  case h_3 => rfl

theorem hasLeadingZero_toDigits (value : Nat) : hasLeadingZero (Nat.toDigits 10 value) = false := by
  rw [hasLeadingZero, withoutSign_toDigits]
  split
  case h_1 isDigits => exact absurd isDigits (toDigits_ne value _ _)
  case h_2 => rfl

theorem magnitude?_toDigits (value : Nat) : magnitude? (Nat.toDigits 10 value) = some value := by
  have isNumber : (if hasLeadingZero (Nat.toDigits 10 value) then none
      else digitsIn? 10 (Nat.toDigits 10 value)) = some value := by
    rw [if_neg (by simp [hasLeadingZero_toDigits]), digitsIn?_eq Nat.toDigits_ne_nil
      (areDigits_toDigits value), Nat.ofDigitChars_toDigits (by decide) (by decide)]
  unfold magnitude?
  split
  case h_1 isDigits => exact absurd isDigits (toDigits_ne value _ _)
  case h_2 isDigits => exact absurd isDigits (toDigits_ne value _ _)
  case h_3 isDigits => exact absurd isDigits (toDigits_ne value _ _)
  case h_4 => exact isNumber

theorem naturalWord?_toString (value : Nat) : naturalWord? (toString value) = some value := by
  rw [naturalWord?, Nat.toString_eq_ofList_toDigits, String.toList_ofList]
  split
  case h_1 isDigits =>
    exact absurd (areDigits_toDigits value _ (isDigits ▸ List.mem_cons_self)) (by decide)
  case h_2 => exact magnitude?_toDigits value

theorem hasInnerMark_of_digits {digits : List Char} (areDigits : ∀ digit ∈ digits, digit.isDigit = true)
    (inWord : Bool) : hasInnerMark inWord digits = false := by
  induction digits generalizing inWord with
  | nil => rfl
  | cons digit digits inductionHypothesis =>
      obtain ⟨isDigit, areDigits⟩ := List.forall_mem_cons.1 areDigits
      have noMark := forall_isDigit (fun digit => digit != ':' && digit != '#') (by decide) isDigit
      simp only [Bool.and_eq_true, bne_iff_ne] at noMark
      simp [hasInnerMark, noMark, inductionHypothesis areDigits]

theorem hasLeadingMark_of_digits {digits : List Char}
    (areDigits : ∀ digit ∈ digits, digit.isDigit = true) : hasLeadingMark digits = false := by
  cases digits with
  | nil => rfl
  | cons digit digits =>
      obtain ⟨isDigit, -⟩ := List.forall_mem_cons.1 areDigits
      have noMark := forall_isDigit (fun digit => !",[]\x7b\x7d#&*!|>'\"%@\x60".toList.contains digit
        && digit != '?' && digit != ':' && digit != '-' && digit != '.') (by decide) isDigit
      simp only [Bool.and_eq_true, Bool.not_eq_true', bne_iff_ne] at noMark
      obtain ⟨⟨⟨⟨noMark, notQuestion⟩, notColon⟩, notDash⟩, notDot⟩ := noMark
      have noDashes : "---".toList.isPrefixOf (digit :: digits) = false :=
        Bool.and_eq_false_iff.2 (.inl (beq_false_of_ne notDash.symm))
      have noDots : "...".toList.isPrefixOf (digit :: digits) = false :=
        Bool.and_eq_false_iff.2 (.inl (beq_false_of_ne notDot.symm))
      rw [hasLeadingMark, noMark, noDashes, noDots]
      simp [notQuestion, notColon, notDash]

theorem isPlain_of_digits {digits : List Char} (notEmpty : digits ≠ [])
    (areDigits : ∀ digit ∈ digits, digit.isDigit = true) : IsPlain digits := by
  have notSpace (digit : Char) (member : digit ∈ digits) : digit ≠ ' ' := by
    rintro rfl
    exact absurd (areDigits _ member) (by decide)
  refine ⟨notEmpty, hasLeadingMark_of_digits areDigits, hasInnerMark_of_digits areDigits false,
    fun digit member => forall_isDigit isPrintable (by decide) (areDigits digit member),
    fun digit member => ?_,
    fun isSpace => notSpace ' ' (List.mem_of_head? isSpace) rfl,
    fun isSpace => notSpace ' ' (List.mem_of_getLast? isSpace) rfl⟩
  simpa using forall_isDigit (fun digit => !isBreak digit) (by decide) (areDigits digit member)

/-! Scalars that are printed without loss. -/

/-- A value is written as a tree that is printed without loss, does not stand for an absent value and is
read as the value. -/
structure Encodes {Value : Type} (decode : Yaml → Option Value) (value : Value) (yaml : Yaml) : Prop where
  printed : ∃ tokens, HasTokens yaml tokens
  isGiven : yaml.isNull? = some false
  decoded : decode yaml = some value

theorem Encodes.printed_of_mem {Value : Type} {decode : Yaml → Option Value} {encode : Value → Yaml}
    {value : Option Value} (encodes : ∀ held ∈ value, Encodes decode held (encode held)) :
    ∀ yaml ∈ value.map encode, ∃ tokens, HasTokens yaml tokens := by
  intro yaml member
  obtain ⟨held, isHeld, rfl⟩ := Option.map_eq_some_iff.1 member
  exact (encodes held isHeld).printed

theorem isPlain_toString (value : Nat) : IsPlain (toString value).toList := by
  rw [Nat.toString_eq_ofList_toDigits, String.toList_ofList]
  exact isPlain_of_digits Nat.toDigits_ne_nil (areDigits_toDigits value)

theorem isNullWord_of_naturalWord? {word : String} {value : Nat}
    (isNumber : naturalWord? word = some value) : isNullWord word = false := by
  have noNumbers : ∀ null ∈ ["~", "null", "Null", "NULL"], naturalWord? null = none := by decide
  have differs {null : String} (isNull : null ∈ ["~", "null", "Null", "NULL"]) : word ≠ null := by
    rintro rfl
    exact Option.some_ne_none _ (isNumber.symm.trans (noNumbers _ isNull))
  simp [isNullWord, differs]

theorem isNull?_ofNat (value : Nat) : (ofNat value).isNull? = some false := by
  have notEmpty : (toString value).isEmpty = false := by
    rw [Bool.eq_false_iff, ne_eq, String.isEmpty_iff]
    intro isEmpty
    exact (isPlain_toString value).notEmpty (by rw [isEmpty]; rfl)
  rw [ofNat, isNull?, notEmpty, isNullWord_of_naturalWord? (naturalWord?_toString value)]
  rfl

theorem natBelow?_ofNat {value bound : Nat} (below : value < bound) :
    (ofNat value).natBelow? bound = some value := by
  rw [ofNat, natBelow?, if_pos (by decide), naturalWord?_toString]
  simpa using below

/-- Numbers of any width are written alike. -/
theorem encodes_number {Value : Type} {decode : Yaml → Option Value} {value : Value} {number : Nat}
    (decoded : decode (ofNat number) = some value) : Encodes decode value (ofNat number) :=
  ⟨⟨_, .plain (isPlain_toString number)⟩, isNull?_ofNat number, decoded⟩

theorem encodes_word64 (value : UInt64) : Encodes word64? value (ofNat value.toNat) :=
  encodes_number (by simp [word64?, natBelow?_ofNat value.toNat_lt])

theorem encodes_word32 (value : UInt32) : Encodes word32? value (ofNat value.toNat) :=
  encodes_number (by simp [word32?, natBelow?_ofNat value.toNat_lt])

theorem encodes_boolean (value : Bool) : Encodes boolean? value (ofBool value) where
  printed := ⟨_, .plain (isPlain_of_allowsPlain (by cases value <;> decide) (by cases value <;> decide))⟩
  isGiven := by cases value <;> decide
  decoded := by cases value <;> decide

/-- Any text keeps its meaning, as it stands in marks where it would have another one without. -/
theorem encodes_string (text : String) : Encodes string? text (ofString text) := by
  unfold ofString
  split
  case isTrue stands =>
    simp only [Bool.and_eq_true, Bool.not_eq_true'] at stands
    obtain ⟨noOther, allowed⟩ := stands
    simp only [hasOtherMeaning, Bool.or_eq_false_iff] at noOther
    obtain ⟨⟨⟨⟨⟨⟨notEmpty, -⟩, notNull⟩, -⟩, -⟩, -⟩, -⟩ := noOther
    refine ⟨⟨_, .plain (isPlain_of_allowsPlain ?_ allowed)⟩, ?_, rfl⟩
    · simpa using notEmpty
    · simp [isNull?, notNull, notEmpty]
  case isFalse => exact ⟨⟨_, .quoted text⟩, rfl, rfl⟩

/-! Records. -/

/-- The fields of a record that have a value. -/
def present (fields : List (String × Option Yaml)) : List (String × Yaml) :=
  fields.flatMap fun field => (field.2.map fun value => (field.1, value)).toList

/-- The entries of a record; fields without a value are left out. -/
def record (fields : List (String × Option Yaml)) : List (Yaml × Yaml) :=
  (present fields).map fun field => (ofString field.1, field.2)

/-- Whether a name can stand as a key without quotes. -/
def isKey (name : String) : Bool :=
  !hasOtherMeaning name && allowsPlain name.toList && name.toList.length ≤ 1024

theorem ofString_of_isKey {name : String} (isKey_ : isKey name = true) :
    ofString name = .scalar .plain name ∧ IsPlain name.toList ∧ name.toList.length ≤ 1024 := by
  simp only [isKey, Bool.and_eq_true, Bool.not_eq_true', decide_eq_true_eq] at isKey_
  obtain ⟨⟨noOther, allowed⟩, short⟩ := isKey_
  have notEmpty : name.toList ≠ [] := by
    simp only [hasOtherMeaning, Bool.or_eq_false_iff] at noOther
    simpa using noOther.1.1.1.1.1.1
  exact ⟨by simp [ofString, noOther, allowed], isPlain_of_allowsPlain notEmpty allowed, short⟩

theorem exists_entriesHaveTokens : ∀ {values : List (String × Yaml)},
    (∀ entry ∈ values, isKey entry.1 = true ∧ ∃ tokens, HasTokens entry.2 tokens) →
    ∃ tokens, EntriesHaveTokens (values.map fun field => (ofString field.1, field.2)) tokens
  | [], _ => ⟨[], .nil⟩
  | (name, value) :: values, printed => by
      obtain ⟨⟨isKey_, tokens, hasTokens⟩, printed⟩ := List.forall_mem_cons.1 printed
      obtain ⟨later, haveTokens⟩ := exists_entriesHaveTokens printed
      obtain ⟨isText, plain, short⟩ := ofString_of_isKey isKey_
      rw [List.map_cons, isText]
      exact ⟨_, .cons plain short hasTokens haveTokens⟩

theorem mem_present {fields : List (String × Option Yaml)} {name : String} {value : Yaml} :
    (name, value) ∈ present fields ↔ (name, some value) ∈ fields := by
  simp only [present, List.mem_flatMap, Option.mem_toList, Option.map_eq_some_iff, Prod.mk.injEq]
  constructor
  · rintro ⟨⟨_, _⟩, member, _, rfl, rfl, rfl⟩
    exact member
  · exact fun member => ⟨_, member, value, rfl, rfl, rfl⟩

theorem eq_none_of_present_eq_nil {fields : List (String × Option Yaml)} (isEmpty : present fields = []) :
    ∀ field ∈ fields, field.2 = none := by
  rintro ⟨name, value⟩ member
  cases value with
  | none => rfl
  | some value =>
      have isPresent := mem_present.2 member
      rw [isEmpty] at isPresent
      exact absurd isPresent List.not_mem_nil

/-- A record of printed values is printed without loss unless none of its fields has a value. -/
theorem exists_hasTokens_record {fields : List (String × Option Yaml)}
    (areKeys : ∀ field ∈ fields, isKey field.1 = true)
    (printed : ∀ field ∈ fields, ∀ value ∈ field.2, ∃ tokens, HasTokens value tokens)
    (notEmpty : present fields ≠ []) : ∃ tokens, HasTokens (.mapping (record fields)) tokens := by
  have entriesPrinted : ∀ entry ∈ present fields,
      isKey entry.1 = true ∧ ∃ tokens, HasTokens entry.2 tokens := by
    rintro ⟨name, value⟩ member
    have member := mem_present.1 member
    have isKey_ := areKeys (name, some value) member
    exact ⟨isKey_, printed (name, some value) member value rfl⟩
  obtain ⟨tokens, haveTokens⟩ := exists_entriesHaveTokens entriesPrinted
  obtain ⟨entry, entries, isRecord⟩ : ∃ entry entries, record fields = entry :: entries :=
    List.exists_cons_of_ne_nil (by simpa [record] using notEmpty)
  rw [← record, isRecord] at haveTokens
  rw [isRecord]
  exact ⟨_, .mapping haveTokens⟩

theorem present_cons (field : String × Option Yaml) (fields : List (String × Option Yaml)) :
    present (field :: fields) =
      (field.2.map fun value => (field.1, value)).toList ++ present fields := rfl

theorem keys_present_sublist (fields : List (String × Option Yaml)) :
    ((present fields).map Prod.fst).Sublist (fields.map Prod.fst) := by
  induction fields with
  | nil => exact .slnil
  | cons field fields inductionHypothesis =>
      obtain ⟨name, value⟩ := field
      cases value with
      | none => exact .cons _ inductionHypothesis
      | some => exact .cons_cons _ inductionHypothesis

theorem eraseDups_of_nodup : ∀ {names : List String}, names.Nodup → names.eraseDups = names
  | [], _ => rfl
  | name :: names, nodup => by
      obtain ⟨isNew, nodup⟩ := List.nodup_cons.1 nodup
      have others : names.filter (fun other => !other == name) = names :=
        List.filter_eq_self.2 fun other member => by
          simpa using fun isSame : other = name => isNew (isSame ▸ member)
      rw [List.eraseDups_cons, others, eraseDups_of_nodup nodup]

/-- The fields of a record are found under their names. -/
theorem fields?_record {fields : List (String × Option Yaml)} (nodup : (fields.map Prod.fst).Nodup) :
    fields? (fields.map Prod.fst) (.mapping (record fields)) = some ⟨present fields⟩ := by
  have entries : entries? (.mapping (record fields)) = some (present fields) := by
    have named (values : List (String × Yaml)) :
        (values.map fun field => (ofString field.1, field.2)).mapM (fun entry : Yaml × Yaml =>
          entry.1.string?.map fun name => (name, entry.2)) = some values := by
      induction values with
      | nil => rfl
      | cons field values inductionHypothesis =>
          have isText : (ofString field.1).string? = some field.1 := rfl
          simp [isText, inductionHypothesis]
    exact named (present fields)
  have keys := keys_present_sublist fields
  simp only [fields?, entries, Option.bind_eq_bind, Option.bind_some]
  rw [if_pos]
  · rfl
  · simp only [Bool.and_eq_true, List.all_eq_true, List.contains_iff_mem, decide_eq_true_eq]
    exact ⟨fun name member => keys.subset member, by rw [eraseDups_of_nodup (nodup.sublist keys)]⟩

/-- A field of a record has its value, or none. -/
theorem lookup_present {fields : List (String × Option Yaml)} (nodup : (fields.map Prod.fst).Nodup)
    {name : String} {value : Option Yaml} (member : (name, value) ∈ fields) :
    (present fields).lookup name = value := by
  induction fields with
  | nil => exact absurd member List.not_mem_nil
  | cons field fields inductionHypothesis =>
      obtain ⟨other, held⟩ := field
      obtain ⟨isNew, nodup⟩ := List.nodup_cons.1 nodup
      rw [present_cons, List.lookup_append]
      rcases List.mem_cons.1 member with isFirst | isLater
      · obtain ⟨rfl, rfl⟩ := Prod.mk.inj isFirst
        have notLater : (present fields).lookup name = none := by
          rw [List.lookup_eq_none_iff]
          intro entry isEntry
          have isName := (keys_present_sublist fields).subset (List.mem_map_of_mem isEntry)
          simpa using fun isSame : name = entry.1 => isNew (isSame ▸ isName)
        cases value <;> simp [notLater]
      · have differs : name ≠ other := by
          rintro rfl
          exact isNew (List.mem_map.2 ⟨(name, value), isLater, rfl⟩)
        rw [inductionHypothesis nodup isLater]
        cases held <;> simp [List.lookup, beq_false_of_ne differs]

section Fields

variable {Value : Type} {decode : Yaml → Option Value} {fields : List (String × Option Yaml)}

theorem required?_present (nodup : (fields.map Prod.fst).Nodup) {name : String} {yaml : Yaml}
    {value : Value} (member : (name, some yaml) ∈ fields) (encodes : Encodes decode value yaml) :
    Fields.required? ⟨present fields⟩ name decode = some value := by
  rw [Fields.required?, lookup_present nodup member]
  exact encodes.decoded

theorem optional?_present (nodup : (fields.map Prod.fst).Nodup) {name : String}
    {encode : Value → Yaml} {value : Option Value} (member : (name, value.map encode) ∈ fields)
    (encodes : ∀ held ∈ value, Encodes decode held (encode held)) :
    Fields.optional? ⟨present fields⟩ name decode = some value := by
  rw [Fields.optional?, lookup_present nodup member]
  cases value with
  | none => rfl
  | some held =>
      have encodes := encodes held rfl
      simp [encodes.isGiven, encodes.decoded]

end Fields

end ForwardTaint.Yaml
