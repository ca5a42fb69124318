import SchemaSeed.Log.Session
import SchemaSeed.Proofs.Decimal.Natural
import SchemaSeed.Proofs.Json.Reading

/-! What the line of a log entry carries.  All writes go to one list of named values, each to its
own name: what was written last under a name is what the line has there. -/

namespace SchemaSeed

/-! ## Named values -/

namespace Fields

variable {α : Type u}

def names (fields : List (Text × α)) : List Text :=
  fields.map (·.1)

theorem names_cons (field : Text × α) (fields : List (Text × α)) :
    names (field :: fields) = field.1 :: names fields := rfl

theorem get?_set (name other : Text) (value : α) (fields : List (Text × α)) :
    get? other (set name value fields) =
      if other = name then some value else get? other fields := by
  by_cases same : other = name
  · rw [if_pos same, same, get?_set_same]
  · rw [if_neg same, get?_set_other same]

theorem get?_eq_none_iff {name : Text} {fields : List (Text × α)} :
    get? name fields = none ↔ name ∉ names fields := by
  induction fields with
  | nil => simp [get?, names]
  | cons field fields induction =>
      rw [names_cons, List.mem_cons, not_or, ← induction, get?]
      by_cases same : field.1 = name
      · simp [same]
      · simp [same, Ne.symm same]

theorem mem_set {name : Text} {value : α} {fields : List (Text × α)} {field : Text × α}
    (member : field ∈ set name value fields) : field = (name, value) ∨ field ∈ fields := by
  induction fields with
  | nil => exact .inl (List.mem_singleton.mp member)
  | cons first fields induction =>
      rw [set] at member
      split at member
      · rename_i same
        rcases List.mem_cons.mp member with rfl | later
        · exact .inl (Prod.ext same rfl)
        · exact .inr (List.mem_cons_of_mem _ later)
      · rcases List.mem_cons.mp member with rfl | later
        · exact .inr List.mem_cons_self
        · exact (induction later).imp_right (List.mem_cons_of_mem _)

theorem nodup_set {fields : List (Text × α)} (distinct : (names fields).Nodup) (name : Text)
    (value : α) : (names (set name value fields)).Nodup := by
  induction fields with
  | nil => exact List.nodup_singleton name
  | cons first fields induction =>
      rw [names_cons, List.nodup_cons] at distinct
      rw [set]
      split
      · exact List.nodup_cons.mpr distinct
      · rename_i different
        refine List.nodup_cons.mpr ⟨fun inside => ?_, induction distinct.2⟩
        rcases List.mem_map.mp inside with ⟨field, member, same⟩
        rcases mem_set member with rfl | old
        · exact different same.symm
        · exact distinct.1 (List.mem_map.mpr ⟨field, old, same⟩)

end Fields

theorem Datum.mem_names_of_field? {name : Text} {fields : List (Text × Datum)} {value : Datum}
    (found : field? name fields = some value) : name ∈ Fields.names fields := by
  induction fields generalizing value with
  | nil => cases found
  | cons field fields induction =>
      rw [field?] at found
      split at found
      · rename_i later known
        exact List.mem_cons_of_mem _ (induction known)
      · split at found
        · rename_i same
          exact List.mem_cons.mpr (.inl same.symm)
        · cases found

theorem Datum.field?_eq_none {name : Text} {fields : List (Text × Datum)}
    (absent : name ∉ Fields.names fields) : field? name fields = none := by
  cases found : field? name fields with
  | none => rfl
  | some value => exact absurd (mem_names_of_field? found) absent

theorem Datum.haveWritableValues_iff {fields : List (Text × Datum)} :
    haveWritableValues fields = true ↔ ∀ field ∈ fields, field.2.isWritable = true := by
  induction fields with
  | nil => simp [haveWritableValues]
  | cons field fields induction =>
      rw [haveWritableValues, Bool.and_eq_true, induction, List.forall_mem_cons]

namespace Json

theorem DenotesFields.names_eq {values : List (Text × Value)} {fields : List (Text × Datum)}
    (each : DenotesFields values fields) : Fields.names values = Fields.names fields := by
  induction fields generalizing values with
  | nil =>
      cases each
      rfl
  | cons field fields induction =>
      rcases each with _ | ⟨name, -, rest⟩
      rw [Fields.names_cons, Fields.names_cons, induction rest]

theorem DenotesFields.exists_get? {values : List (Text × Value)} {fields : List (Text × Datum)}
    (each : DenotesFields values fields) {name : Text} {datum : Datum}
    (found : Fields.get? name fields = some datum) :
    ∃ value, Fields.get? name values = some value ∧ Denotes value datum := by
  induction fields generalizing values with
  | nil => cases found
  | cons field fields induction =>
      rcases each with _ | ⟨known, first, rest⟩
      rw [Fields.get?] at found ⊢
      by_cases same : known = name
      · rw [if_pos same] at found ⊢
        cases found
        exact ⟨_, rfl, first⟩
      · rw [if_neg same] at found ⊢
        exact induction rest found

/-- Text stands for itself. -/
theorem DenotesFields.get?_text {values : List (Text × Value)} {fields : List (Text × Datum)}
    (each : DenotesFields values fields) {name text : Text}
    (found : Fields.get? name fields = some (.text text)) :
    Fields.get? name values = some (.text text) := by
  rcases each.exists_get? found with ⟨value, read, denotes⟩
  cases denotes
  exact read

/-- What is a text or nothing is the same text, or nothing. -/
theorem DenotesFields.get?_map_text {values : List (Text × Value)} {fields : List (Text × Datum)}
    (each : DenotesFields values fields) {name : Text} {text : Option Text}
    (found : Fields.get? name fields = text.map .text) :
    Fields.get? name values = text.map .text := by
  cases text with
  | none => rwa [Option.map_none, Fields.get?_eq_none_iff, each.names_eq, ← Fields.get?_eq_none_iff]
  | some text => exact each.get?_text found

end Json

namespace Log

namespace Entry

/-! ## The values of a line -/

/-- No further value has the name of an attribute that every record has. -/
def KeepsAttributes (entry : Entry) : Prop :=
  ∀ name ∈ Fields.names entry.record.extra, name ∉ ownAttributes

instance (entry : Entry) : Decidable entry.KeepsAttributes :=
  List.decidableBAll _ _

theorem field?_own {entry : Entry} (keeps : entry.KeepsAttributes) {name : Text}
    (own : name ∈ ownAttributes) : Datum.field? name entry.record.extra = none :=
  Datum.field?_eq_none fun given => keeps name given own

theorem levelName_eq {entry : Entry} (keeps : entry.KeepsAttributes) :
    entry.levelName = .text (Level.name entry.record.level) := by
  rw [levelName, attribute?, field?_own keeps (by decide), Option.getD_none]

theorem loggerName_eq {entry : Entry} (keeps : entry.KeepsAttributes) :
    entry.loggerName = .text entry.record.logger := by
  rw [loggerName, attribute?, field?_own keeps (by decide), Option.getD_none]

theorem faultText_eq {entry : Entry} (keeps : entry.KeepsAttributes) :
    entry.faultText = entry.record.fault.map entry.describe := by
  rw [faultText, attribute?, field?_own keeps (by decide)]

/-- Without arguments the message is taken as it stands. -/
theorem message_eq {entry : Entry} (keeps : entry.KeepsAttributes)
    (none : entry.arguments = []) : entry.message = .ok entry.record.message := by
  rw [message, template, supply?, attribute?, attribute?, field?_own keeps (by decide),
    field?_own keeps (by decide), none]
  rfl

/-- The stack, if there is one to show. -/
def stackText (entry : Entry) : Option Text :=
  entry.stack.filter fun text => !text.isEmpty

theorem stackValue_eq {entry : Entry} (keeps : entry.KeepsAttributes) :
    entry.stackValue = entry.stackText.map .text := by
  rw [stackValue, attribute?, field?_own keeps (by decide), Option.none_or, stackText]
  cases entry.stack with
  | none => rfl
  | some text => cases text <;> rfl

section Writes

variable {payload extra : List (Text × Datum)}

theorem mem_promote {field : Text × Datum} (member : field ∈ promote payload extra) :
    field ∈ extra ∨ field ∈ payload := by
  induction extra generalizing payload with
  | nil => exact .inr member
  | cons first extra induction =>
      rw [promote] at member
      split at member
      · exact (induction member).imp_left (List.mem_cons_of_mem _)
      · rcases induction member with later | written
        · exact .inl (List.mem_cons_of_mem _ later)
        · exact (Fields.mem_set written).imp_left fun same => List.mem_cons.mpr (.inl same)

theorem nodup_promote (distinct : (Fields.names payload).Nodup) :
    (Fields.names (promote payload extra)).Nodup := by
  induction extra generalizing payload with
  | nil => exact distinct
  | cons first extra induction =>
      rw [promote]
      split
      · exact induction distinct
      · exact induction (Fields.nodup_set distinct _ _)

/-- The further value of a name, the last one given, comes before what was there. -/
theorem get?_promote (foreign : ∀ name ∈ Fields.names extra, name ∉ ownAttributes) (name : Text) :
    Fields.get? name (promote payload extra) =
      (Datum.field? name extra).or (Fields.get? name payload) := by
  induction extra generalizing payload with
  | nil => rfl
  | cons first extra induction =>
      rw [Fields.names_cons, List.forall_mem_cons] at foreign
      have own : ¬ownAttributes.contains first.1 = true := by
        rw [List.contains_iff_mem]
        exact foreign.1
      rw [promote, if_neg own, induction foreign.2, Fields.get?_set, Datum.field?]
      cases Datum.field? name extra with
      | some later => rfl
      | none =>
          by_cases same : name = first.1
          · simp [same]
          · simp [same, Ne.symm same]

theorem mem_setOptional {name : Text} {value : Option Datum} {field : Text × Datum}
    (member : field ∈ setOptional name value payload) :
    (field.1 = name ∧ some field.2 = value) ∨ field ∈ payload := by
  cases value with
  | none => exact .inr member
  | some given =>
      rcases Fields.mem_set member with rfl | old
      · exact .inl ⟨rfl, rfl⟩
      · exact .inr old

theorem nodup_setOptional (distinct : (Fields.names payload).Nodup) (name : Text)
    (value : Option Datum) : (Fields.names (setOptional name value payload)).Nodup := by
  cases value with
  | none => exact distinct
  | some given => exact Fields.nodup_set distinct name given

theorem get?_setOptional_same (name : Text) (value : Option Datum) :
    Fields.get? name (setOptional name value payload) = value.or (Fields.get? name payload) := by
  cases value with
  | none => rfl
  | some given => exact Fields.get?_set_same name given payload

theorem get?_setOptional_other {name other : Text} (different : other ≠ name)
    (value : Option Datum) :
    Fields.get? other (setOptional name value payload) = Fields.get? other payload := by
  cases value with
  | none => rfl
  | some given => exact Fields.get?_set_other different given payload

end Writes

/-- The texts that stand in every line. -/
def ownTexts (entry : Entry) (message : Text) : List (Text × Datum) := [
  ("level", .text (Level.name entry.record.level)), ("logger", .text entry.record.logger),
  ("message", .text message)]

/-- The names a line uses on its own. -/
def lineNames : List Text := ["level", "logger", "message", "exc_info", "stack_info"]

theorem nodup_payload (entry : Entry) (message : Text) :
    (Fields.names (entry.payload message)).Nodup := by
  have base (level logger : Datum) : (Fields.names [("level".toList, level),
      ("logger".toList, logger), ("message".toList, .text message)]).Nodup :=
    show ["level".toList, "logger".toList, "message".toList].Nodup by decide
  exact nodup_setOptional (nodup_setOptional (nodup_promote (base _ _)) _ _) _ _

section Payload

variable {entry : Entry} (keeps : entry.KeepsAttributes) (message : Text)

include keeps

/-- The line has the further values, and texts of its own. -/
theorem mem_payload {field : Text × Datum} (member : field ∈ entry.payload message) :
    field ∈ entry.record.extra ∨ (field.1 ∈ lineNames ∧ ∃ text, field.2 = .text text) := by
  rw [payload, stackValue_eq keeps, faultText_eq keeps, levelName_eq keeps, loggerName_eq keeps,
    Option.map_map] at member
  have ofOptional {name : Text} (known : name ∈ lineNames) {text : Option Text}
      (here : field.1 = name ∧ some field.2 = text.map .text) :
      field.1 ∈ lineNames ∧ ∃ text, field.2 = .text text := by
    rcases Option.map_eq_some_iff.mp here.2.symm with ⟨text, -, same⟩
    exact ⟨here.1 ▸ known, text, same.symm⟩
  rcases mem_setOptional member with here | member
  · exact .inr (ofOptional (by decide) here)
  · rcases mem_setOptional member with here | member
    · rw [← Option.map_map] at here
      exact .inr (ofOptional (by decide) here)
    · rcases mem_promote member with further | base
      · exact .inl further
      · simp only [List.mem_cons, List.not_mem_nil, or_false] at base
        rcases base with rfl | rfl | rfl <;> exact .inr ⟨by simp [lineNames], _, rfl⟩

/-- Further values come before the texts that stand in every line. -/
theorem get?_payload {name : Text} (fault : name ≠ "exc_info") (stack : name ≠ "stack_info") :
    Fields.get? name (entry.payload message) = (Datum.field? name entry.record.extra).or
      (Fields.get? name (entry.ownTexts message)) := by
  rw [payload, get?_setOptional_other stack, get?_setOptional_other fault, get?_promote keeps,
    levelName_eq keeps, loggerName_eq keeps, ownTexts]

theorem get?_payload_fault : Fields.get? "exc_info" (entry.payload message) =
    (entry.record.fault.map entry.describe).map .text := by
  rw [payload, get?_setOptional_other (by decide), get?_setOptional_same, get?_promote keeps,
    field?_own keeps (by decide), faultText_eq keeps]
  exact Option.or_none

theorem get?_payload_stack : Fields.get? "stack_info" (entry.payload message) =
    entry.stackText.map .text := by
  rw [payload, get?_setOptional_same, get?_setOptional_other (by decide), get?_promote keeps,
    field?_own keeps (by decide), stackValue_eq keeps]
  exact Option.or_none

end Payload

/-! ## The line -/

/-- What is read in the line of an entry: each name once, with the value that the entry has for
it.  A further value named `level` or `logger` is shown in place of the record's own. -/
structure Carries (entry : Entry) (message : Text) (fields : List (Text × Json.Value)) : Prop where
  distinct : (Fields.names fields).Nodup
  level : "level".toList ∉ Fields.names entry.record.extra →
    Fields.get? "level" fields = some (.text (Level.name entry.record.level))
  logger : "logger".toList ∉ Fields.names entry.record.extra →
    Fields.get? "logger" fields = some (.text entry.record.logger)
  message : Fields.get? "message" fields = some (.text message)
  extra : ∀ name value, Datum.field? name entry.record.extra = some value →
    ∃ shown, Fields.get? name fields = some shown ∧ Json.Denotes shown value
  fault : Fields.get? "exc_info" fields = (entry.record.fault.map entry.describe).map .text
  stack : Fields.get? "stack_info" fields = entry.stackText.map .text
  known : ∀ name ∈ Fields.names fields, name ∈ lineNames ∨ name ∈ Fields.names entry.record.extra

theorem carries_of_denotes {entry : Entry} (keeps : entry.KeepsAttributes) {message : Text}
    {fields : List (Text × Json.Value)}
    (each : Json.DenotesFields fields (entry.payload message)) : entry.Carries message fields := by
  -- A name that no further value has keeps the text that every line gives it.
  have own {name text : Text} (fault : name ≠ "exc_info") (stack : name ≠ "stack_info")
      (absent : Datum.field? name entry.record.extra = none)
      (base : Fields.get? name (entry.ownTexts message) = some (.text text)) :
      Fields.get? name fields = some (.text text) := by
    refine each.get?_text ?_
    rw [get?_payload keeps message fault stack, absent]
    exact base
  constructor
  case distinct =>
    rw [each.names_eq]
    exact nodup_payload entry message
  case level => exact fun absent => own (by decide) (by decide) (Datum.field?_eq_none absent) rfl
  case logger => exact fun absent => own (by decide) (by decide) (Datum.field?_eq_none absent) rfl
  case message => exact own (by decide) (by decide) (field?_own keeps (by decide)) rfl
  case extra =>
    intro name value found
    have foreign := keeps name (Datum.mem_names_of_field? found)
    have other {own : Text} (known : own ∈ ownAttributes) : name ≠ own :=
      fun same => foreign (same ▸ known)
    refine each.exists_get? ?_
    rw [get?_payload keeps message (other (by decide)) (other (by decide)), found, Option.some_or]
  case fault => exact each.get?_map_text (get?_payload_fault keeps message)
  case stack => exact each.get?_map_text (get?_payload_stack keeps message)
  case known =>
    intro name member
    rw [each.names_eq] at member
    rcases List.mem_map.mp member with ⟨field, inside, rfl⟩
    rcases mem_payload keeps message inside with further | ⟨own, -⟩
    · exact .inr (List.mem_map_of_mem further)
    · exact .inl own

theorem isWritable_payload {entry : Entry} (keeps : entry.KeepsAttributes)
    (writable : Datum.haveWritableValues entry.record.extra = true) (message : Text) :
    (Datum.object (entry.payload message)).isWritable = true := by
  rw [Datum.isWritable, Datum.haveWritableValues_iff]
  intro field member
  rcases mem_payload keeps message member with further | ⟨-, text, shape⟩
  · exact Datum.haveWritableValues_iff.mp writable field further
  · rw [shape]
    rfl

section Line

variable {entry : Entry} (keeps : entry.KeepsAttributes)
  (short : Decimal.isTooLong entry.record.level = false)
  (writable : Datum.haveWritableValues entry.record.extra = true)

include keeps short writable

theorem jsonLine_eq {message : Text} (formatted : entry.message = .ok message) :
    entry.jsonLine = .ok (Json.render (.object (entry.payload message))) := by
  have written := isWritable_payload keeps writable message
  rw [jsonLine, short, formatted]
  dsimp only
  rw [written]
  rfl

theorem exists_read {message : Text} (formatted : entry.message = .ok message) :
    ∃ line fields, entry.jsonLine = .ok line ∧ Json.IsVisible line ∧
      Json.read? line = some (.object fields) ∧
      Json.DenotesFields fields (entry.payload message) := by
  rcases Json.read?_render (.object (entry.payload message)) with ⟨value, read, denotes⟩
  rcases denotes with _ | _ | _ | _ | _ | _ | _ | _ | ⟨each⟩
  exact ⟨_, _, jsonLine_eq keeps short writable formatted, Json.isVisible_render _, read, each⟩

end Line

end Entry

/-! ## Records of a process -/

/-- A process refuses the records that an entry must not have. -/
theorem Session.reservedName?_eq_none_iff {record : Record} :
    Session.reservedName? record.extra = none ↔
      Entry.KeepsAttributes { record } := by
  simp only [reservedName?, List.find?_eq_none, List.contains_iff_mem, Entry.KeepsAttributes,
    Fields.names]

/-- What a process writes for a record is the line of an entry that has nothing beside it. -/
theorem Record.jsonLine_eq {record : Record}
    (allowed : Session.reservedName? record.extra = none)
    (short : Decimal.isTooLong record.level = false)
    (writable : Datum.haveWritableValues record.extra = true) :
    Entry.jsonLine { record } = .ok record.jsonLine := by
  have keeps := Session.reservedName?_eq_none_iff.mp allowed
  exact Entry.jsonLine_eq keeps short writable (Entry.message_eq keeps rfl)

end Log

end SchemaSeed
