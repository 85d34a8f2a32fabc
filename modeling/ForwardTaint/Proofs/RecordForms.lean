import ForwardTaint.Json.Record
import Mathlib

/-!
Objects that stand for records.  A declared field is written once, in a form of its value, or left out
if it may be; in which order the fields stand and which others are there does not matter.  Reading such
an object finds at each declared name a form that nests less deep, or nothing where there may be nothing.
-/

namespace ForwardTaint.Json

/-- A declared field of a record with its value: in which forms this is written, and whether the field
may be left out. -/
structure DeclaredField where
  name : String
  isForm : Json → Prop
  mayBeOmitted : Prop

namespace DeclaredField

/-- A field that must be written. -/
def required (name : String) (isForm : Json → Prop) : DeclaredField := ⟨name, isForm, False⟩

/-- A field that may be left out where its value is the default. -/
def defaulted {Value : Type} (name : String) (default value : Value) (isForm : Json → Prop) :
    DeclaredField := ⟨name, isForm, value = default⟩

@[simp] theorem required_name (name : String) (isForm : Json → Prop) :
    (required name isForm).name = name := rfl

@[simp] theorem defaulted_name {Value : Type} (name : String) (default value : Value)
    (isForm : Json → Prop) : (defaulted name default value isForm).name = name := rfl

@[simp] theorem required_isForm (name : String) (isForm : Json → Prop) :
    (required name isForm).isForm = isForm := rfl

@[simp] theorem defaulted_isForm {Value : Type} (name : String) (default value : Value)
    (isForm : Json → Prop) : (defaulted name default value isForm).isForm = isForm := rfl

/-- How the fields of an object hold a declared one: once in one of its forms, or not at all. -/
inductive IsHeldBy (fields : List (String × Json)) (declared : DeclaredField) : Prop where
  | written (json : Json)
      (once : (fields.filter fun field => field.1 == declared.name) = [(declared.name, json)])
      (isForm : declared.isForm json)
  | omitted (absent : (fields.filter fun field => field.1 == declared.name) = [])
      (mayBe : declared.mayBeOmitted)

theorem isHeldBy_iff {fields : List (String × Json)} {declared : DeclaredField} :
    declared.IsHeldBy fields ↔
      (∃ json, (fields.filter fun field => field.1 == declared.name) = [(declared.name, json)] ∧
        declared.isForm json) ∨
      ((fields.filter fun field => field.1 == declared.name) = [] ∧ declared.mayBeOmitted) := by
  constructor
  · rintro (⟨json, once, isForm⟩ | ⟨absent, mayBe⟩)
    · exact .inl ⟨json, once, isForm⟩
    · exact .inr ⟨absent, mayBe⟩
  · rintro (⟨json, once, isForm⟩ | ⟨absent, mayBe⟩)
    · exact .written json once isForm
    · exact .omitted absent mayBe

end DeclaredField

/-- The text itself. -/
def IsText (text : String) (json : Json) : Prop := json = .string text

@[simp] theorem isText_string (text : String) : (string text).IsText text := rfl

/-- The object holds every declared field. -/
def IsRecord (declared : List DeclaredField) : Json → Prop
  | .object fields => ∀ field ∈ declared, field.IsHeldBy fields
  | _ => False

/-- The object holds its kind at the tag, besides every declared field. -/
def IsTagged (tag kind : String) (declared : List DeclaredField) (json : Json) : Prop :=
  json.IsRecord (.required tag (IsText kind) :: declared)

/-- `null` for a value that is absent, otherwise a form of the value. -/
def IsOption {Value : Type} (isForm : Value → Json → Prop) : Option Value → Json → Prop
  | none, json => json = .null
  | some value, json => isForm value json

theorem isOption_ofOption {Value : Type} {isForm : Value → Json → Prop} {encode : Value → Json}
    {value : Option Value} (encoded : ∀ held ∈ value, isForm held (encode held)) :
    IsOption isForm value (.ofOption encode value) := by
  cases value with
  | none => rfl
  | some held => exact encoded held rfl

/-- An array with such items. -/
def IsArray (areItems : List Json → Prop) : Json → Prop
  | .array items => areItems items
  | _ => False

/-- An array of forms of the values, in order. -/
def IsList {Value : Type} (isForm : Value → Json → Prop) (values : List Value) : Json → Prop :=
  IsArray (List.Forall₂ isForm values)

theorem isObject_of_isRecord {declared : List DeclaredField} {json : Json}
    (isRecord : json.IsRecord declared) :
    ∃ fields, json = .object fields ∧ ∀ field ∈ declared, field.IsHeldBy fields := by
  cases json with
  | object fields => exact ⟨fields, rfl, isRecord⟩
  | _ => exact isRecord.elim

theorem filter_eq_singleton {fields : List (String × Json)} {name : String} {json : Json}
    (distinct : (fields.map Prod.fst).Nodup) (member : (name, json) ∈ fields) :
    (fields.filter fun field => field.1 == name) = [(name, json)] := by
  induction fields with
  | nil => exact nomatch member
  | cons field fields inductionHypothesis =>
      obtain ⟨apart, distinct⟩ := List.nodup_cons.1 distinct
      rcases List.mem_cons.1 member with rfl | later
      · rw [List.filter_cons_of_pos (by simp), List.cons_inj_right, List.filter_eq_nil_iff]
        intro other isOther same
        exact apart (List.mem_map.2 ⟨other, isOther, eq_of_beq same⟩)
      · have different : field.1 ≠ name := fun same =>
          apart (List.mem_map.2 ⟨_, later, same.symm⟩)
        rw [List.filter_cons_of_neg (by simpa using different), inductionHypothesis distinct later]

/-- An object that holds the declared fields in order and no others. -/
theorem isRecord_object {declared : List DeclaredField} {fields : List (String × Json)}
    (distinct : (declared.map DeclaredField.name).Nodup)
    (each : List.Forall₂ (fun field written => written.1 = field.name ∧ field.isForm written.2)
      declared fields) :
    (object fields).IsRecord declared := by
  have names : fields.map Prod.fst = declared.map DeclaredField.name :=
    (List.forall₂_eq_eq_eq ▸ List.forall₂_map_left_iff.2 (List.forall₂_map_right_iff.2
      (each.imp fun _ _ written => written.1.symm)) : declared.map _ = _).symm
  rw [← names] at distinct
  intro field member
  obtain ⟨index, inside, rfl⟩ := List.getElem_of_mem member
  obtain ⟨name, isForm⟩ := each.get inside (each.length_eq ▸ inside)
  have isWritten := List.get_mem fields ⟨index, each.length_eq ▸ inside⟩
  exact .written _ (filter_eq_singleton distinct ((Prod.ext name rfl : _ = (_, _)) ▸ isWritten)) isForm

/-! What is read of such an object. -/

/-- What is found at a declared field: a form within the bound on depth, or nothing if the field may be
left out. -/
inductive Fields.Holds (bound : Nat) (fields : Fields) (declared : DeclaredField) : Prop where
  | present (json : Json) (place : fields.place declared.name = .present json)
      (isForm : declared.isForm json) (within : json.depth ≤ bound)
  | omitted (place : fields.place declared.name = .omitted) (mayBe : declared.mayBeOmitted)

theorem depth_le_depthOfFields {fields : List (String × Json)} {field : String × Json}
    (member : field ∈ fields) : field.2.depth ≤ depthOfFields fields := by
  induction member with
  | head => exact Nat.le_max_left _ _
  | tail _ _ inductionHypothesis => exact Nat.le_trans inductionHypothesis (Nat.le_max_right _ _)

theorem depthOfFields_filter_le (fields : List (String × Json)) (keeps : String × Json → Bool) :
    depthOfFields (fields.filter keeps) ≤ depthOfFields fields := by
  induction fields with
  | nil => exact Nat.le_refl _
  | cons field fields inductionHypothesis =>
      rw [List.filter_cons]
      split
      · exact Nat.max_le.2 ⟨Nat.le_max_left _ _,
          Nat.le_trans inductionHypothesis (Nat.le_max_right _ _)⟩
      · exact Nat.le_trans inductionHypothesis (Nat.le_max_right _ _)

/-- Where each declared field has a place, all of them are found there. -/
theorem lookup_of_mapM_place? {fields : List (String × Json)} {names : List String}
    (hasPlace : ∀ name ∈ names, ∃ found, place? fields name = some (name, found)) :
    ∃ places, names.mapM (place? fields) = some places ∧
      ∀ name ∈ names, ∀ found, place? fields name = some (name, found) →
        places.lookup name = some found := by
  induction names with
  | nil => exact ⟨[], rfl, nofun⟩
  | cons name names inductionHypothesis =>
      obtain ⟨found, first⟩ := hasPlace name List.mem_cons_self
      obtain ⟨places, rest, lookups⟩ := inductionHypothesis fun other later =>
        hasPlace other (List.mem_cons_of_mem _ later)
      refine ⟨(name, found) :: places, ?_, ?_⟩
      · rw [List.mapM_cons, first, rest]
        rfl
      · intro other member found' isPlace
        by_cases same : other = name
        · subst same
          rw [first] at isPlace
          cases isPlace
          exact List.lookup_cons_self
        · rw [List.lookup_cons, beq_false_of_ne same]
          exact lookups other ((List.mem_cons.1 member).resolve_left same) found' isPlace

theorem place?_of_isHeldBy {fields : List (String × Json)} {declared : DeclaredField}
    (held : declared.IsHeldBy fields) : ∃ found, place? fields declared.name =
      some (declared.name, found) ∧
      ((∃ json, found = .present json ∧ declared.isForm json ∧
          json.depth ≤ depthOfFields fields) ∨
        found = .omitted ∧ declared.mayBeOmitted) := by
  cases held with
  | written json once isForm =>
      have member : (declared.name, json) ∈ fields :=
        List.mem_of_mem_filter (once ▸ List.mem_singleton_self _)
      refine ⟨.present json, ?_, .inl ⟨json, rfl, isForm, depth_le_depthOfFields member⟩⟩
      rw [place?, once]
  | omitted absent mayBe =>
      refine ⟨.omitted, ?_, .inr ⟨rfl, mayBe⟩⟩
      rw [place?, absent]

/-- Reading the declared fields of a record finds what they hold. -/
theorem fields?_of_isRecord {declared : List DeclaredField} {json : Json} {bound : Nat}
    (isRecord : json.IsRecord declared) (within : json.depth ≤ bound + 1) :
    ∃ fields, json.fields? (declared.map DeclaredField.name) = some fields ∧
      ∀ field ∈ declared, fields.Holds bound field := by
  obtain ⟨written, rfl, held⟩ := isObject_of_isRecord isRecord
  have hasPlace : ∀ name ∈ declared.map DeclaredField.name,
      ∃ found, place? written name = some (name, found) := by
    intro name member
    obtain ⟨field, isDeclared, rfl⟩ := List.mem_map.1 member
    obtain ⟨found, isPlace, -⟩ := place?_of_isHeldBy (held field isDeclared)
    exact ⟨found, isPlace⟩
  obtain ⟨places, all, lookups⟩ := lookup_of_mapM_place? hasPlace
  refine ⟨⟨places⟩, by rw [fields?, all]; rfl, ?_⟩
  intro field isDeclared
  obtain ⟨found, isPlace, holds⟩ := place?_of_isHeldBy (held field isDeclared)
  have place : (Fields.mk places).place field.name = found := by
    rw [Fields.place, lookups field.name (List.mem_map_of_mem isDeclared) found isPlace]
    rfl
  rcases holds with ⟨json, rfl, isForm, depth⟩ | ⟨rfl, mayBe⟩
  · exact .present json place isForm (Nat.le_trans depth (Nat.le_of_succ_le_succ within))
  · exact .omitted place mayBe

/-- A tagged record is split into its kind and an object of what else it holds. -/
theorem tagged?_of_isTagged {tag kind : String} {declared : List DeclaredField} {json : Json}
    (isTagged : json.IsTagged tag kind declared)
    (apart : tag ∉ declared.map DeclaredField.name) :
    ∃ record, json.tagged? tag = some (kind, record) ∧ record.IsRecord declared ∧
      record.isBare = true ∧ record.depth ≤ json.depth := by
  obtain ⟨fields, rfl, held⟩ := isObject_of_isRecord isTagged
  obtain ⟨atTag, held⟩ := List.forall_mem_cons.1 held
  refine ⟨.object (fields.filter fun field => field.1 != tag), ?_, ?_, rfl,
    Nat.succ_le_succ (depthOfFields_filter_le fields _)⟩
  · cases atTag with
    | written json once isForm =>
        obtain rfl : json = .string kind := isForm
        have once : (fields.filter fun field => field.1 == tag) = [(tag, .string kind)] := once
        rw [tagged?, once]
    | omitted _ mayBe => exact mayBe.elim
  · intro field isDeclared
    -- The filters for the tag and for another name do not interfere.
    have same : ((fields.filter fun field => field.1 != tag).filter
        fun other => other.1 == field.name) = fields.filter fun other => other.1 == field.name := by
      rw [List.filter_filter]
      refine List.filter_congr fun other _ => ?_
      have different : field.name ≠ tag := fun same =>
        apart (List.mem_map.2 ⟨field, isDeclared, same⟩)
      by_cases isName : other.1 = field.name
      · simp [isName, different]
      · simp [isName]
    cases held field isDeclared with
    | written json once isForm => exact .written json (same.trans once) isForm
    | omitted absent mayBe => exact .omitted (same.trans absent) mayBe

/-- What a tagged record holds besides its kind is read from an object that nests less deep. -/
theorem fields?_of_isTagged {tag kind : String} {declared : List DeclaredField} {json : Json}
    {bound : Nat} (isTagged : json.IsTagged tag kind declared)
    (apart : tag ∉ declared.map DeclaredField.name) (within : json.depth ≤ bound) :
    ∃ below record fields, bound = below + 1 ∧ json.tagged? tag = some (kind, record) ∧
      record.isBare = true ∧ record.fields? (declared.map DeclaredField.name) = some fields ∧
      ∀ field ∈ declared, fields.Holds below field := by
  obtain ⟨record, tagged, isRecord, isBare, depth⟩ := tagged?_of_isTagged isTagged apart
  have positive : 0 < json.depth := by
    obtain ⟨fields, rfl, -⟩ := isObject_of_isRecord isTagged
    exact Nat.succ_pos _
  obtain ⟨below, rfl⟩ := Nat.exists_eq_succ_of_ne_zero (Nat.pos_iff_ne_zero.1
    (Nat.lt_of_lt_of_le positive within))
  obtain ⟨fields, read, holds⟩ := fields?_of_isRecord isRecord (Nat.le_trans depth within)
  exact ⟨below, record, fields, rfl, tagged, isBare, read, holds⟩

/-- Reads a value that may be absent. -/
def nullable? {Value : Type} (decode : Json → Option Value) : Json → Option (Option Value)
  | .null => some none
  | json => (decode json).map some

theorem nullable?_of_eq_some {Value : Type} {decode : Json → Option Value} {json : Json}
    {value : Value} (notNull : json ≠ .null) (reads : decode json = some value) :
    json.nullable? decode = some (some value) := by
  cases json <;> simp_all [nullable?]

namespace Fields

variable {Value : Type} {fields : Fields} {bound : Nat} {name : String} {isForm : Json → Prop}
  {decode : Json → Option Value} {value default : Value}

theorem required?_of_holds (holds : fields.Holds bound (.required name isForm))
    (reads : ∀ json, isForm json → json.depth ≤ bound → decode json = some value) :
    fields.required? name decode = some value := by
  cases holds with
  | present json place isForm within =>
      have place : fields.place name = .present json := place
      rw [required?, place]
      exact reads json isForm within
  | omitted _ mayBe => exact mayBe.elim

theorem orDefault?_of_holds (holds : fields.Holds bound (.defaulted name default value isForm))
    (reads : ∀ json, isForm json → json.depth ≤ bound → decode json = some value) :
    fields.orDefault? name default decode = some value := by
  cases holds with
  | present json place isForm within =>
      have place : fields.place name = .present json := place
      rw [orDefault?, place]
      exact reads json isForm within
  | omitted place mayBe =>
      obtain rfl : value = default := mayBe
      have place : fields.place name = .omitted := place
      rw [orDefault?, place]

theorem optional?_of_holds {value : Option Value}
    (holds : fields.Holds bound (.defaulted name none value isForm))
    (reads : ∀ json, isForm json → json.depth ≤ bound → json.nullable? decode = some value) :
    fields.optional? name decode = some value := by
  cases holds with
  | present json place isForm within =>
      have place : fields.place name = .present json := place
      rw [optional?, place, ← reads json isForm within]
      cases json <;> rfl
  | omitted place mayBe =>
      obtain rfl : value = none := mayBe
      have place : fields.place name = .omitted := place
      rw [optional?, place]

theorem text_of_holds {text : String}
    (holds : fields.Holds bound (.required name (IsText text))) :
    fields.required? name Json.string? = some text := by
  refine required?_of_holds holds ?_
  rintro json rfl -
  rfl

theorem optionalText_of_holds {text : Option String}
    (holds : fields.Holds bound (.defaulted name none text (IsOption IsText text))) :
    fields.optional? name Json.string? = some text := by
  refine optional?_of_holds holds fun json isForm _ => ?_
  cases text with
  | none =>
      obtain rfl : json = .null := isForm
      rfl
  | some text =>
      obtain rfl : json = .string text := isForm
      rfl

end Fields

@[simp] theorem isArray_array {areItems : List Json → Prop} {items : List Json} :
    (array items).IsArray areItems ↔ areItems items := Iff.rfl

/-- Encoded values in an array. -/
theorem isList_map {Value : Type} {isForm : Value → Json → Prop} {encode : Value → Json}
    {values : List Value} (encoded : ∀ value ∈ values, isForm value (encode value)) :
    (array (values.map encode)).IsList isForm values := by
  rw [IsList, isArray_array, List.forall₂_map_right_iff, List.forall₂_same]
  exact encoded

theorem isList_ofStrings (texts : List String) : (ofStrings texts).IsList IsText texts :=
  isList_map fun _ _ => rfl

theorem isArray_iff {areItems : List Json → Prop} {json : Json} :
    json.IsArray areItems ↔ ∃ items, json = .array items ∧ areItems items := by
  cases json <;> simp [IsArray]

/-- The items of an array nest less deep than it does. -/
theorem list?_of_isArray {Value : Type} {areItems : List Json → Prop} {values : List Value}
    {json : Json} {bound : Nat} {decode : Json → Option Value} (isArray : json.IsArray areItems)
    (within : json.depth ≤ bound)
    (reads : ∀ items, areItems items → depthOfItems items ≤ bound →
      items.mapM decode = some values) :
    json.list? decode = some values := by
  obtain ⟨items, rfl, areItems⟩ := isArray_iff.1 isArray
  exact reads items areItems (Nat.le_of_succ_le within)

/-- The items of an array are read in turn. -/
theorem list?_of_isList {Value : Type} {isForm : Value → Json → Prop} {values : List Value}
    {json : Json} {decode : Json → Option Value} (isList : json.IsList isForm values)
    (reads : ∀ value ∈ values, ∀ item, isForm value item → decode item = some value) :
    json.list? decode = some values := by
  obtain ⟨items, rfl, each⟩ := isArray_iff.1 isList
  clear isList
  rw [list?]
  induction each with
  | nil => rfl
  | cons first rest inductionHypothesis =>
      obtain ⟨reads, readsRest⟩ := List.forall_mem_cons.1 reads
      rw [List.mapM_cons, reads _ first, inductionHypothesis readsRest]
      rfl

end ForwardTaint.Json
