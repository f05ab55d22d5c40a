import RowStamp.Host.Json
import RowStamp.Proofs.Json.Decoding
import RowStamp.Proofs.Json.Documents

/-!
Host data as JSON.  Main statement: a mapping, a bound statement, a kind and a mapped statement are
read back from the JSON that they are written as, whatever JSON they were read from before; and
what can be read as each of them is a form of its own, with parts by name or by position.
-/

set_option autoImplicit false
set_option relaxedAutoImplicit false

namespace RowStamp

open Json (Decoder Exact ListForm MaybeText PairForm TextForm)

/-! ### Lists and records -/

namespace Json

variable {α β γ : Type} {ofValue : α → Json} {decode : Decoder α}

theorem exact_ofList (each : ∀ value, Exact (ofValue value)) (values : List α) :
    Exact (ofList ofValue values) := by
  apply Exact.array
  intro item listed
  obtain ⟨value, -, rfl⟩ := List.mem_map.mp listed
  exact each value

theorem decode_ofList (each : ∀ value, decode (ofValue value) = .ok value) (values : List α) :
    Decoder.list decode (ofList ofValue values) = .ok values := by
  show (values.map ofValue).mapM decode = .ok values
  rw [Decoder.mapM_eq_ok_iff, List.forall₂_map_left_iff, List.forall₂_same]
  intro value _
  exact each value

private theorem listForm_ofList {form : Json → α → Prop}
    (each : ∀ value, form (ofValue value) value)
    (values : List α) : ListForm form (ofList ofValue values) values := by
  refine ⟨values.map ofValue, rfl, ?_⟩
  rw [List.forall₂_map_left_iff, List.forall₂_same]
  intro value _
  exact each value

private theorem pairForm_ofMembers {one two : String} {first : Json → α → Prop}
    {second : Json → β → Prop}
    {v w : Json} {a : α} {b : β} (apart : one ≠ two) (leftForm : first v a)
    (rightForm : second w b) (make : α → β → γ) :
    PairForm one two first second make (ofMembers [(one, v), (two, w)]) (make a b) := by
  obtain ⟨members, same, -, -, found⟩ := ofMembers_eq [(one, v), (two, w)]
  have left : members.lookup one = some v := by
    rw [found]
    simp [lookup_cons, apart]
  have right : members.lookup two = some w := by
    rw [found]
    simp
  rw [same]
  exact .named left right leftForm rightForm

/-- A value survives its JSON form: it is read back from it, also when the form is written as text
in any layout; and the decoder reads just the values of a form. -/
structure Survives (decode : Decoder α) (toJson : α → Json) (form : Json → α → Prop) : Prop where
  readBack : ∀ value, decode (toJson value) = .ok value
  written : ∀ layout value, read? (textIn layout (toJson value)) = some (toJson value)
  accepts : Decoder.Accepts decode form

private theorem survives_of_accepts {toJson : α → Json} {form : Json → α → Prop}
    (accepts : Decoder.Accepts decode form) (formed : ∀ value, form (toJson value) value)
    (exact : ∀ value, Exact (toJson value)) : Survives decode toJson form where
  readBack value := (accepts (toJson value) value).mpr (formed value)
  written layout value := by
    have read := read?_textIn (exact value) layout (show Reader.Blank [] from rfl)
    rwa [String.ofList_nil, String.append_empty] at read
  accepts := accepts

end Json

/-! ### Mappings -/

namespace ParameterMapping

/-- An object with a property, and perhaps with a type, stands for a mapping; so does an array of a
property and perhaps of a type. -/
inductive Form : Json → ParameterMapping → Prop
  | named {members : List (String × Json)} {property : String} {type : Option String}
      (bound : members.lookup "property" = some (.string property))
      (typed : MaybeText (members.lookup "jdbcType") type) :
      Form (.object members) ⟨property, type⟩
  | listed {rest : List Json} {property : String} {type : Option String}
      (short : rest.length ≤ 1) (typed : MaybeText rest.head? type) :
      Form (.array (.string property :: rest)) ⟨property, type⟩

theorem exact_toJson (mapping : ParameterMapping) : Exact mapping.toJson := by
  apply Json.exact_ofMembers
  intro member listed
  rcases List.mem_cons.mp listed with rfl | typed
  · exact .string _
  · obtain ⟨type, -, rfl⟩ : ∃ type, mapping.jdbcType = some type ∧
        ("jdbcType", Json.string type) = member := by
      simpa using typed
    exact .string type

private theorem member?_toJson (mapping : ParameterMapping) :
    mapping.toJson.member? "property" = some (.string mapping.property) ∧
      mapping.toJson.member? "jdbcType" = mapping.jdbcType.map Json.string := by
  obtain ⟨property, type⟩ := mapping
  rw [toJson, Json.member?_ofMembers, Json.member?_ofMembers]
  cases type <;> exact ⟨rfl, rfl⟩

private theorem form_toJson (mapping : ParameterMapping) : Form mapping.toJson mapping := by
  obtain ⟨bound, typed⟩ := mapping.member?_toJson
  have form : MaybeText (mapping.toJson.member? "jdbcType") mapping.jdbcType := by
    rw [typed]
    cases mapping.jdbcType with
    | none => exact .absent
    | some type => exact .text type
  exact .named bound form

private theorem decoder_array_iff {items : List Json} {mapping : ParameterMapping} :
    decoder (.array items) = .ok mapping ↔ Form (.array items) mapping := by
  simp only [decoder, Decoder.record, Json.bind_eq_ok_iff, Prod.exists,
    Json.Positions.next_eq_ok_iff, Json.Positions.next?_eq_ok_iff, Json.Positions.finish_eq_ok_iff,
    Decoder.optional_text_eq_ok_iff, Decoder.accepts_text _ _, TextForm, pure, Except.pure,
    Except.ok.injEq, Prod.mk.injEq]
  constructor
  · rintro ⟨_, _, ⟨property, _, ⟨_, rest, rfl, rfl, rfl⟩, type, _, last, rfl, rfl⟩, _, ended, rfl⟩
    rcases last with ⟨none', rfl, -⟩ | ⟨item, others, some', typed, rfl⟩
    · obtain rfl : rest = [] := none'
      exact .listed (by simp) .absent
    · obtain rfl : others = [] := ended
      obtain rfl : rest = [item] := some'
      exact .listed (by simp) typed
  · intro form
    cases form with
    | @listed rest property type short typed =>
      cases rest with
      | nil =>
        cases typed
        exact ⟨⟨property, none⟩, _, ⟨property, _, ⟨_, [], rfl, rfl, rfl⟩, none, _,
          .inl ⟨rfl, rfl, rfl⟩, rfl, rfl⟩, (), rfl, rfl⟩
      | cons item others =>
        obtain rfl : others = [] := by simpa using short
        exact ⟨⟨property, type⟩, _, ⟨property, _, ⟨_, [item], rfl, rfl, rfl⟩, type, _,
          .inr ⟨item, [], rfl, typed, rfl⟩, rfl, rfl⟩, (), rfl, rfl⟩

private theorem decoder_object_iff {members : List (String × Json)} {mapping : ParameterMapping} :
    decoder (.object members) = .ok mapping ↔ Form (.object members) mapping := by
  simp only [decoder, Decoder.record, Json.bind_eq_ok_iff, Decoder.required_eq_ok_iff, pure,
    Except.pure, Except.ok.injEq]
  constructor
  · rintro ⟨type, readType, -, readProperty, property, rfl, rfl⟩
    obtain ⟨json, bound, text⟩ := Decoder.member?_eq_some_iff.mp readProperty
    obtain rfl := (Decoder.accepts_text json property).mp text
    exact .named bound (Decoder.member?_join_iff.mp ⟨type, readType, rfl⟩)
  · intro form
    cases form with
    | @named _ property type bound typed =>
      obtain ⟨read, readType, rfl⟩ := Decoder.member?_join_iff.mpr typed
      have readProperty := Decoder.member?_eq_some_iff.mpr ⟨_, bound,
        (Decoder.accepts_text _ property).mpr rfl⟩
      exact ⟨read, readType, some property, readProperty, property, rfl, rfl⟩

private theorem accepts_decoder : Decoder.Accepts decoder Form := by
  intro json mapping
  cases json with
  | array items => exact decoder_array_iff
  | object members => exact decoder_object_iff
  | _ =>
    constructor
    · intro read
      cases read
    · intro form
      cases form

theorem decoder_toJson (mapping : ParameterMapping) : decoder mapping.toJson = .ok mapping :=
  (accepts_decoder _ _).mpr mapping.form_toJson

private theorem survives : Json.Survives decoder toJson Form :=
  Json.survives_of_accepts accepts_decoder form_toJson exact_toJson

end ParameterMapping

/-! ### Bound statements -/

namespace BoundSql

/-- A text and mappings stand for a bound statement. -/
def Form : Json → BoundSql → Prop :=
  PairForm "sql" "parameterMappings" TextForm (ListForm ParameterMapping.Form) BoundSql.mk

private theorem accepts_decoder : Decoder.Accepts decoder Form :=
  Decoder.accepts_pair Decoder.accepts_text (Decoder.accepts_list ParameterMapping.accepts_decoder)

private theorem form_toJson (bound : BoundSql) : Form bound.toJson bound := by
  have sql : TextForm (.string bound.sql) bound.sql := rfl
  have mappings := Json.listForm_ofList ParameterMapping.form_toJson bound.mappings
  exact Json.pairForm_ofMembers (by decide) sql mappings BoundSql.mk

private theorem exact_toJson (bound : BoundSql) : Exact bound.toJson := by
  apply Json.exact_ofMembers
  simp only [List.forall_mem_cons]
  exact ⟨.string _, Json.exact_ofList ParameterMapping.exact_toJson bound.mappings, by simp⟩

private theorem survives : Json.Survives decoder toJson Form :=
  Json.survives_of_accepts accepts_decoder form_toJson exact_toJson

example :
    decoder (.array [.string "UPDATE t SET a = ?, b = ?", .array [.array [.string "a"],
      .object [("mode", .string "IN"), ("property", .string "b"), ("jdbcType", .null)]]]) =
    .ok ⟨"UPDATE t SET a = ?, b = ?", [⟨"a", none⟩, ⟨"b", none⟩]⟩ := by rfl

private theorem member?_toJson (bound : BoundSql) :
    bound.toJson.member? "sql" = some (.string bound.sql) ∧
      bound.toJson.member? "parameterMappings" =
        some (.array (bound.mappings.map ParameterMapping.toJson)) := by
  rw [toJson, Json.member?_ofMembers, Json.member?_ofMembers]
  exact ⟨rfl, rfl⟩

end BoundSql

/-! ### Kinds and mapped statements -/

namespace StatementKind

/-- The name of a kind stands for it, and so does an object of a single member of that name, which
is null. -/
def Form (json : Json) (kind : StatementKind) : Prop :=
  json = .string kind.label ∨ json = .object [(kind.label, .null)]

private theorem ofLabel?_eq_some_iff {name : String} {kind : StatementKind} :
    ofLabel? name = some kind ↔ name = kind.label := by
  constructor
  · intro found
    unfold ofLabel? at found
    split at found
    · obtain rfl := Option.some.inj found
      rfl
    · obtain rfl := Option.some.inj found
      rfl
    · obtain rfl := Option.some.inj found
      rfl
    · cases found
  · rintro rfl
    cases kind <;> rfl

private theorem choose_eq_ok_iff {variants : List String} {name : String} {kind : StatementKind} :
    Decoder.variant.choose variants ofLabel? name = .ok kind ↔ name = kind.label := by
  rw [← ofLabel?_eq_some_iff, Decoder.variant.choose]
  cases ofLabel? name <;> simp

private theorem accepts_decoder : Decoder.Accepts decoder Form := by
  intro json kind
  unfold decoder Decoder.variant
  split
  · rw [choose_eq_ok_iff, Form]
    simp
  · -- the single member has to be null
    rename_i name value
    rw [Json.bind_eq_ok_iff, Form]
    cases value <;> simp [choose_eq_ok_iff, pure, Except.pure, throw, throwThe, MonadExceptOf.throw]
  · rename_i several
    refine iff_of_false (by simp) ?_
    rintro (same | same)
    · cases same
    · exact several _ _ (Json.object.inj same)
  · rename_i noText noMember noObject
    refine iff_of_false (by simp) ?_
    rintro (same | same)
    · exact noText _ same
    · exact noObject _ same

private theorem exact_toJson (kind : StatementKind) : Exact kind.toJson := .string kind.label

private theorem form_toJson (kind : StatementKind) : Form kind.toJson kind := .inl rfl

private theorem survives : Json.Survives decoder toJson Form :=
  Json.survives_of_accepts accepts_decoder form_toJson exact_toJson

end StatementKind

namespace MappedStatement

/-- A name and a kind stand for a mapped statement. -/
def Form : Json → MappedStatement → Prop :=
  PairForm "id" "command" TextForm StatementKind.Form MappedStatement.mk

private theorem accepts_decoder : Decoder.Accepts decoder Form :=
  Decoder.accepts_pair Decoder.accepts_text StatementKind.accepts_decoder

private theorem form_toJson (statement : MappedStatement) : Form statement.toJson statement := by
  have id : TextForm (.string statement.id) statement.id := rfl
  have command := StatementKind.form_toJson statement.command
  exact Json.pairForm_ofMembers (by decide) id command MappedStatement.mk

private theorem exact_toJson (statement : MappedStatement) : Exact statement.toJson := by
  apply Json.exact_ofMembers
  simp only [List.forall_mem_cons]
  exact ⟨.string _, statement.command.exact_toJson, by simp⟩

private theorem survives : Json.Survives decoder toJson Form :=
  Json.survives_of_accepts accepts_decoder form_toJson exact_toJson

end MappedStatement

/-- Host data survives JSON.  Each of its types is read back from the JSON that its values are
written as, and is read from just the JSON values of its form: from an object by name, with null
for an absent type and whatever other members, or from an array by position, at every level.  What
is written has a type exactly for the mappings that have one, and the mappings in their order. -/
theorem host_data_survives_json :
    Json.Survives ParameterMapping.decoder ParameterMapping.toJson ParameterMapping.Form ∧
    Json.Survives BoundSql.decoder BoundSql.toJson BoundSql.Form ∧
    Json.Survives StatementKind.decoder StatementKind.toJson StatementKind.Form ∧
    Json.Survives MappedStatement.decoder MappedStatement.toJson MappedStatement.Form ∧
    (∀ mapping : ParameterMapping,
      mapping.toJson.member? "property" = some (.string mapping.property) ∧
        mapping.toJson.member? "jdbcType" = mapping.jdbcType.map Json.string) ∧
    ∀ bound : BoundSql,
      bound.toJson.member? "sql" = some (.string bound.sql) ∧
        bound.toJson.member? "parameterMappings" =
          some (.array (bound.mappings.map ParameterMapping.toJson)) :=
  ⟨ParameterMapping.survives, BoundSql.survives, StatementKind.survives, MappedStatement.survives,
    ParameterMapping.member?_toJson, BoundSql.member?_toJson⟩

end RowStamp
