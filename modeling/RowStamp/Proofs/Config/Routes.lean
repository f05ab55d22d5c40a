import Mathlib.Data.List.Induction
import Mathlib.Data.List.Nodup
import RowStamp.Config.Json
import RowStamp.Proofs.Ignore.Ordered
import RowStamp.Proofs.Json.Members

/-!
Settings from named properties and settings from JSON.  Both routes end in the same four texts, of
which properties give the last ones, and what is wrong with these texts is found in one order: the
patterns of ignored tables before the dialect, and the first bad pattern before later ones.
-/

set_option autoImplicit false
set_option relaxedAutoImplicit false

namespace RowStamp

open Json (Decoder DecodeFault)

def lastValue? (properties : List (String × String)) (key : String) : Option String :=
  properties.reverse.lookup key

/-- The setting that a member of an object is, if it holds a text. -/
def RawConfig.textPair? (member : String × Json) : Option (String × String) :=
  match member.2 with
  | .string text => if member.1 ∈ keys then some (member.1, text) else none
  | _ => none

def RawConfig.textEntries (members : List (String × Json)) : List (String × String) :=
  members.filterMap textPair?

/-- A failure reports the first pattern of ignored tables that does not compile. -/
def ReportsPattern (properties : List (String × String)) (failure : Failure) : Prop :=
  ∃ text fault, lastValue? properties "ignoreTables" = some text ∧
    IgnoreList.FirstFault (IgnoreList.entries (IgnoreList.split text)) fault ∧
    failure = .ignorePattern fault

def ReportsDialect (properties : List (String × String)) (failure : Failure) : Prop :=
  ∃ name, lastValue? properties "sqlDialect" = some name ∧ Text.trim name ≠ "" ∧
    Dialect.parse? name = none ∧ failure = .unknownDialect (Dialect.lowerName name)

/-! ### The last values -/

private theorem lastValue?_append (properties : List (String × String)) (key : String)
    (property : String × String) :
    lastValue? (properties ++ [property]) key =
      if key = property.1 then some property.2 else lastValue? properties key := by
  rw [lastValue?, List.reverse_append, List.reverse_singleton, List.singleton_append,
    Json.lookup_cons, lastValue?]

namespace RawConfig

def ofValues (value? : String → Option String) : RawConfig :=
  ⟨value? "createDateColumnName", value? "updateDateColumnName", value? "ignoreTables",
    value? "sqlDialect"⟩

private theorem ofValues_congr {value? other? : String → Option String}
    (same : ∀ key ∈ keys, value? key = other? key) : ofValues value? = ofValues other? := by
  simp only [keys, List.forall_mem_cons] at same
  obtain ⟨create, update, ignored, dialect, -⟩ := same
  simp only [ofValues, create, update, ignored, dialect]

private theorem set_ofValues (value? : String → Option String) (key : String)
    (value : Option String) :
    (ofValues value?).set key value =
      ofValues fun name => if name = key then value else value? name := by
  unfold set
  split
  · simp [ofValues]
  · simp [ofValues]
  · simp [ofValues]
  · simp [ofValues]
  · rename_i create update ignored dialect
    simp [ofValues, Ne.symm create, Ne.symm update, Ne.symm ignored, Ne.symm dialect]

theorem ofProperties_eq (properties : List (String × String)) :
    ofProperties properties = ofValues (lastValue? properties) := by
  induction properties using List.reverseRecOn with
  | nil => rfl
  | append_singleton properties property ih =>
    have step : ofProperties (properties ++ [property]) =
        (ofProperties properties).set property.1 (some property.2) := by
      rw [ofProperties, List.foldl_append, List.foldl_cons, List.foldl_nil, ofProperties]
    rw [step, ih, set_ofValues]
    congr 1
    funext key
    rw [lastValue?_append]

/-! ### What the texts mean -/

variable {raw : RawConfig} {config : AuditConfig} {failure : Failure}

theorem resolve_eq_ok_iff :
    raw.resolve = .ok config ↔ raw.columns = config.columns ∧
      raw.ignored = .ok config.ignored ∧ raw.dialect = .ok config.dialect := by
  obtain ⟨columns, ignored, dialect⟩ := config
  rw [resolve]
  cases raw.ignored with
  | error failure => simp [bind, Except.bind]
  | ok list =>
    cases raw.dialect with
    | error failure => simp [bind, Except.bind]
    | ok other => simp [bind, Except.bind, pure, Except.pure]

private theorem resolve_eq_error_iff :
    raw.resolve = .error failure ↔ raw.ignored = .error failure ∨
      (∃ list, raw.ignored = .ok list) ∧ raw.dialect = .error failure := by
  rw [resolve]
  cases raw.ignored with
  | error failure => simp [bind, Except.bind]
  | ok list =>
    cases raw.dialect with
    | error failure => simp [bind, Except.bind]
    | ok other => simp [bind, Except.bind, pure, Except.pure]

private theorem ignored_eq_error_iff :
    raw.ignored = .error failure ↔ ∃ text fault, raw.ignoreTables = some text ∧
      IgnoreList.FirstFault (IgnoreList.entries (IgnoreList.split text)) fault ∧
      failure = .ignorePattern fault := by
  rw [ignored]
  cases raw.ignoreTables with
  | none => simp
  | some text =>
    have parse : IgnoreList.parse text = IgnoreList.ofPatterns (IgnoreList.split text) := rfl
    simp only [← IgnoreList.ofPatterns_eq_error_iff, parse]
    cases read : IgnoreList.ofPatterns (IgnoreList.split text) with
    | error fault => simp [read, Except.mapError, eq_comm (a := failure)]
    | ok list => simp [read, Except.mapError]

private theorem dialect_eq_error_iff :
    raw.dialect = .error failure ↔ ∃ name, raw.sqlDialect = some name ∧ Text.trim name ≠ "" ∧
      Dialect.parse? name = none ∧ failure = .unknownDialect (Dialect.lowerName name) := by
  rw [dialect]
  cases raw.sqlDialect with
  | none => simp
  | some name =>
    by_cases blank : Text.trim name = ""
    · simp [blank]
    · cases known : Dialect.parse? name with
      | some dialect => simp [blank, dialectOf, known]
      | none => simp [blank, dialectOf, known, eq_comm (a := failure)]

end RawConfig

/-! ### Objects -/

namespace RawConfig

variable {members : List (String × Json)}

private theorem textPair?_eq_some_iff {member : String × Json} {entry : String × String} :
    textPair? member = some entry ↔ member = (entry.1, .string entry.2) ∧ entry.1 ∈ keys := by
  obtain ⟨name, value⟩ := member
  obtain ⟨key, text⟩ := entry
  cases value with
  | string given =>
    simp only [textPair?, Option.ite_none_right_eq_some, Option.some.injEq, Prod.mk.injEq,
      Json.string.injEq]
    constructor
    · rintro ⟨known, rfl, rfl⟩
      exact ⟨⟨rfl, rfl⟩, known⟩
    · rintro ⟨⟨rfl, rfl⟩, known⟩
      exact ⟨known, rfl, rfl⟩
  | _ => simp [textPair?]

private theorem mem_textEntries {key text : String} :
    (key, text) ∈ textEntries members ↔ (key, .string text) ∈ members ∧ key ∈ keys := by
  simp [textEntries, textPair?_eq_some_iff]

def textMember? (members : List (String × Json)) (key : String) : Option String :=
  match members.lookup key with
  | some (.string text) => some text
  | _ => none

private theorem textMember?_eq_some_iff (distinct : (members.map Prod.fst).Nodup)
    {key text : String} :
    textMember? members key = some text ↔ (key, .string text) ∈ members := by
  rw [← Json.lookup_eq_some_iff distinct, textMember?]
  split
  · rename_i found
    simp [found]
  · rename_i other
    exact iff_of_false (by simp) (other text)

private theorem distinct_textEntries (distinct : (members.map Prod.fst).Nodup) :
    ((textEntries members).map Prod.fst).Nodup := by
  rw [List.nodup_iff_pairwise_ne, List.pairwise_map] at distinct ⊢
  refine List.Pairwise.filterMap textPair? ?_ distinct
  intro one other apart entry taken later also
  obtain ⟨rfl, -⟩ := textPair?_eq_some_iff.mp taken
  obtain ⟨rfl, -⟩ := textPair?_eq_some_iff.mp also
  exact apart

private theorem lastValue?_textEntries (distinct : (members.map Prod.fst).Nodup) {key : String}
    (known : key ∈ keys) : lastValue? (textEntries members) key = textMember? members key := by
  have backwards : ((textEntries members).reverse.map Prod.fst).Nodup := by
    rw [List.map_reverse, List.nodup_reverse]
    exact distinct_textEntries distinct
  ext text
  rw [lastValue?, Json.lookup_eq_some_iff backwards, List.mem_reverse, mem_textEntries,
    textMember?_eq_some_iff distinct, and_iff_left known]

private theorem member?_optional_text {key : String}
    (fits : ∀ value, (key, value) ∈ members → value = .null ∨ ∃ text, value = .string text) :
    (Decoder.member? (.optional .text) members key).map Option.join =
      .ok (textMember? members key) := by
  rw [Decoder.member?, textMember?]
  cases found : members.lookup key with
  | none => rfl
  | some value =>
    have member : (key, value) ∈ members := by
      obtain ⟨before, after, same, -⟩ := List.lookup_eq_some_iff.mp found
      simp [same]
    rcases fits value member with rfl | ⟨text, rfl⟩
    · rfl
    · rfl

private theorem decoder_object
    (fits : ∀ key ∈ keys, ∀ value, (key, value) ∈ members →
      value = .null ∨ ∃ text, value = .string text) :
    decoder (.object members) = .ok (ofValues (textMember? members)) := by
  simp only [keys, List.forall_mem_cons] at fits
  obtain ⟨create, update, ignored, dialect, -⟩ := fits
  simp only [decoder, Decoder.record, member?_optional_text create, member?_optional_text update,
    member?_optional_text ignored, member?_optional_text dialect]
  rfl

end RawConfig

namespace AuditConfig

private theorem ofProperties_congr {properties others : List (String × String)}
    (same : ∀ key ∈ RawConfig.keys, lastValue? properties key = lastValue? others key) :
    ofProperties properties = ofProperties others := by
  rw [ofProperties, ofProperties, RawConfig.ofProperties_eq, RawConfig.ofProperties_eq,
    RawConfig.ofValues_congr same]

private theorem decoder_object {members : List (String × Json)}
    (distinct : (members.map Prod.fst).Nodup)
    (fits : ∀ key ∈ RawConfig.keys, ∀ value, (key, value) ∈ members →
      value = .null ∨ ∃ text, value = .string text) :
    decoder (.object members) =
      (ofProperties (RawConfig.textEntries members)).mapError DecodeFault.settings := by
  have texts : RawConfig.ofProperties (RawConfig.textEntries members) =
      RawConfig.ofValues (RawConfig.textMember? members) := by
    rw [RawConfig.ofProperties_eq]
    exact RawConfig.ofValues_congr fun key known => RawConfig.lastValue?_textEntries distinct known
  rw [decoder, RawConfig.decoder_object fits, ofProperties, texts]
  rfl

private theorem ofProperties_eq_error_iff {properties : List (String × String)}
    {failure : Failure} :
    ofProperties properties = .error failure ↔ ReportsPattern properties failure ∨
      (∀ other, ¬ReportsPattern properties other) ∧ ReportsDialect properties failure := by
  have patterns (other : Failure) : ReportsPattern properties other ↔
      (RawConfig.ofProperties properties).ignored = .error other := by
    rw [RawConfig.ofProperties_eq, RawConfig.ignored_eq_error_iff]
    rfl
  have dialects : ReportsDialect properties failure ↔
      (RawConfig.ofProperties properties).dialect = .error failure := by
    rw [RawConfig.ofProperties_eq, RawConfig.dialect_eq_error_iff]
    rfl
  rw [ofProperties, RawConfig.resolve_eq_error_iff, dialects]
  simp only [patterns]
  cases (RawConfig.ofProperties properties).ignored with
  | error found => simp
  | ok list => simp

/-- Settings are the same by either route.  An object in which each setting is absent, null or a
text is read as the properties that its texts are, with the same message where they are rejected;
properties give settings through the last value of each name alone; and what is reported is the
first pattern that does not compile, or, where every pattern does, a dialect that is not known. -/
theorem routes_agree :
    (∀ members : List (String × Json), (members.map Prod.fst).Nodup →
      (∀ key ∈ RawConfig.keys, ∀ value, (key, value) ∈ members →
        value = .null ∨ ∃ text, value = .string text) →
      (∀ config, decoder (.object members) = .ok config ↔
        ofProperties (RawConfig.textEntries members) = .ok config) ∧
      ∀ fault, decoder (.object members) = .error fault ↔
        ∃ failure, ofProperties (RawConfig.textEntries members) = .error failure ∧
          fault = .settings failure ∧ fault.message = failure.message) ∧
    (∀ properties others : List (String × String),
      (∀ key ∈ RawConfig.keys, lastValue? properties key = lastValue? others key) →
      ofProperties properties = ofProperties others) ∧
    ∀ properties failure, ofProperties properties = .error failure ↔
      ReportsPattern properties failure ∨
        (∀ other, ¬ReportsPattern properties other) ∧ ReportsDialect properties failure := by
  refine ⟨fun members distinct fits => ?_, fun properties others => ofProperties_congr,
    fun properties failure => ofProperties_eq_error_iff⟩
  rw [decoder_object distinct fits]
  cases ofProperties (RawConfig.textEntries members) with
  | ok config => simp [Except.mapError]
  | error failure =>
    have message : (DecodeFault.settings failure).message = failure.message := rfl
    simp [Except.mapError, eq_comm, message]

/-- Of a bad pattern between good ones and a dialect that is not known the pattern is reported, by
either route and for any order of the properties. -/
theorem routes_agree_badPattern :
    ∃ fault failure,
      decoder (.object [("createDateColumnName", .string " made "),
        ("ignoreTables", .string "a, (,b"), ("sqlDialect", .string "cobol"),
        ("updateDateColumnName", .null), ("verbose", .bool true)]) = .error fault ∧
      ofProperties [("createDateColumnName", " made "), ("ignoreTables", "a, (,b"),
        ("sqlDialect", "cobol")] = .error failure ∧
      fault.message = failure.message ∧
      ReportsPattern [("createDateColumnName", " made "), ("ignoreTables", "a, (,b"),
        ("sqlDialect", "cobol")] failure ∧
      ofProperties [("ignoreTables", "["), ("sqlDialect", "cobol"), ("verbose", "x"),
        ("ignoreTables", "a, (,b"), ("createDateColumnName", " made ")] = .error failure := by
  have located : (match ofProperties [("createDateColumnName", " made "),
      ("ignoreTables", "a, (,b"), ("sqlDialect", "cobol")] with
    | .error (.ignorePattern fault) => fault.source
    | _ => "") = "(" := by decide +kernel
  obtain ⟨objects, orders, reports⟩ := routes_agree
  cases outcome : ofProperties [("createDateColumnName", " made "), ("ignoreTables", "a, (,b"),
      ("sqlDialect", "cobol")] with
  | ok config =>
    rw [outcome] at located
    exact absurd (show "" = "(" from located) (by decide)
  | error failure =>
    obtain ⟨-, faults⟩ := objects [("createDateColumnName", .string " made "),
        ("ignoreTables", .string "a, (,b"), ("sqlDialect", .string "cobol"),
        ("updateDateColumnName", .null), ("verbose", .bool true)] (by decide) (by
      intro key known value member
      simp only [List.mem_cons, Prod.mk.injEq, List.not_mem_nil, or_false] at member
      rcases member with ⟨-, rfl⟩ | ⟨-, rfl⟩ | ⟨-, rfl⟩ | ⟨-, rfl⟩ | ⟨rfl, -⟩
      · exact .inr ⟨_, rfl⟩
      · exact .inr ⟨_, rfl⟩
      · exact .inr ⟨_, rfl⟩
      · exact .inl rfl
      · exact absurd known (by decide))
    have pattern : ReportsPattern [("createDateColumnName", " made "),
        ("ignoreTables", "a, (,b"), ("sqlDialect", "cobol")] failure := by
      rcases (reports _ _).mp outcome with pattern | ⟨-, name, -, -, -, rfl⟩
      · exact pattern
      · rw [outcome] at located
        exact absurd (show "" = "(" from located) (by decide)
    have reordered := orders [("ignoreTables", "["), ("sqlDialect", "cobol"), ("verbose", "x"),
        ("ignoreTables", "a, (,b"), ("createDateColumnName", " made ")]
      [("createDateColumnName", " made "), ("ignoreTables", "a, (,b"), ("sqlDialect", "cobol")]
      (by decide)
    exact ⟨.settings failure, failure, (faults _).mpr ⟨failure, outcome, rfl, rfl⟩, rfl, rfl,
      pattern, reordered.trans outcome⟩

end AuditConfig

end RowStamp
