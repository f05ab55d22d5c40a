import Mathlib.Data.List.Forall2
import RowStamp.Json.Decode

/-!
Which JSON values a decoder accepts, and as what.  A list is read item by item; a record of two
parts is read from an object by name, whatever other members it has, or from an array of just two
items; and a text that may be absent is read from nothing, from null, or from a string.
-/

set_option autoImplicit false
set_option relaxedAutoImplicit false

namespace RowStamp.Json

variable {α β γ : Type}

/-! ### Forms -/

def TextForm (json : Json) (text : String) : Prop := json = .string text

/-- Nothing and null stand for no text, and a string for its text. -/
inductive MaybeText : Option Json → Option String → Prop
  | absent : MaybeText none none
  | null : MaybeText (some .null) none
  | text (s : String) : MaybeText (some (.string s)) (some s)

/-- An array stands for what its items stand for, in order. -/
def ListForm (form : Json → α → Prop) (json : Json) (values : List α) : Prop :=
  ∃ items, json = .array items ∧ List.Forall₂ form items values

/-- An object with two members, among others perhaps, stands for what is made of both; and so does
an array of two items. -/
inductive PairForm (one two : String) (first : Json → α → Prop) (second : Json → β → Prop)
    (make : α → β → γ) : Json → γ → Prop
  | named {members : List (String × Json)} {v w : Json} {a : α} {b : β}
      (left : members.lookup one = some v) (right : members.lookup two = some w)
      (leftForm : first v a) (rightForm : second w b) :
      PairForm one two first second make (.object members) (make a b)
  | listed {v w : Json} {a : α} {b : β} (leftForm : first v a) (rightForm : second w b) :
      PairForm one two first second make (.array [v, w]) (make a b)

/-! ### Positions -/

theorem bind_eq_ok_iff {ε : Type} {x : Except ε α} {f : α → Except ε β} {b : β} :
    (x >>= f) = .ok b ↔ ∃ a, x = .ok a ∧ f a = .ok b := by
  cases x with
  | error fault => simp [bind, Except.bind]
  | ok a => simp [bind, Except.bind]

namespace Positions

variable {positions after : Positions}

theorem next_eq_ok_iff {decode : Decoder α} {value : α} :
    positions.next decode = .ok (value, after) ↔
      ∃ item rest, positions.left = item :: rest ∧ decode item = .ok value ∧
        { positions with index := positions.index + 1, left := rest } = after := by
  unfold next
  cases positions.left with
  | nil => simp
  | cons item rest => simp [bind_eq_ok_iff, pure, Except.pure]

/-- The next item, if any, of a list of items of which one may be absent. -/
theorem next?_eq_ok_iff {decode : Decoder (Option α)} {found : Option α} :
    positions.next? decode = .ok (found, after) ↔
      positions.left = [] ∧ found = none ∧ positions = after ∨
        ∃ item rest, positions.left = item :: rest ∧ decode item = .ok found ∧
          { positions with index := positions.index + 1, left := rest } = after := by
  unfold next?
  cases left : positions.left with
  | nil => simp [eq_comm]
  | cons item rest => simp [next_eq_ok_iff, left]

theorem finish_eq_ok_iff {u : Unit} : positions.finish = .ok u ↔ positions.left = [] := by
  unfold finish
  cases positions.left <;> simp

end Positions

namespace Decoder

/-- A decoder reads the values of a form, and nothing else. -/
def Accepts (decode : Decoder α) (form : Json → α → Prop) : Prop :=
  ∀ json value, decode json = .ok value ↔ form json value

/-! ### Texts and lists -/

theorem accepts_text : Accepts text TextForm := by
  intro json s
  cases json <;> simp [text, TextForm]

theorem optional_text_eq_ok_iff {json : Json} {found : Option String} :
    optional text json = .ok found ↔ MaybeText (some json) found := by
  constructor
  · intro read
    cases json with
    | null =>
      obtain rfl := Except.ok.inj read
      exact .null
    | string s =>
      obtain rfl := Except.ok.inj read
      exact .text s
    | _ => cases read
  · intro form
    cases form with
    | null => rfl
    | text s => rfl

theorem mapM_eq_ok_iff {decode : Decoder α} {items : List Json} {values : List α} :
    items.mapM decode = .ok values ↔
      List.Forall₂ (fun item value => decode item = .ok value) items values := by
  induction items generalizing values with
  | nil => simp [pure, Except.pure, eq_comm]
  | cons item items ih =>
    simp only [List.mapM_cons, bind_eq_ok_iff, ih, List.forall₂_cons_left_iff, pure, Except.pure,
      Except.ok.injEq]
    constructor
    · rintro ⟨value, read, rest, others, rfl⟩
      exact ⟨value, rest, read, others, rfl⟩
    · rintro ⟨value, rest, read, others, rfl⟩
      exact ⟨value, read, rest, others, rfl⟩

theorem accepts_list {decode : Decoder α} {form : Json → α → Prop} (each : Accepts decode form) :
    Accepts (list decode) (ListForm form) := by
  intro json values
  have same : (fun item value => decode item = .ok value) = form :=
    funext fun item => funext fun value => propext (each item value)
  cases json with
  | array items =>
    rw [list, mapM_eq_ok_iff, same, ListForm]
    simp
  | _ => simp [list, ListForm]

/-! ### Members -/

theorem member?_eq_some_iff {decode : Decoder α} {members : List (String × Json)} {name : String}
    {value : α} : member? decode members name = .ok (some value) ↔
      ∃ json, members.lookup name = some json ∧ decode json = .ok value := by
  rw [member?]
  cases members.lookup name with
  | none => simp
  | some json => cases read : decode json <;> simp [Except.map, read]

theorem member?_join_iff {members : List (String × Json)} {name : String}
    {found : Option String} :
    (∃ read, member? (optional text) members name = .ok read ∧ read.join = found) ↔
      MaybeText (members.lookup name) found := by
  rw [member?]
  cases members.lookup name with
  | none =>
    constructor
    · rintro ⟨read, same, rfl⟩
      obtain rfl := Except.ok.inj same
      exact .absent
    · intro form
      cases form
      exact ⟨none, rfl, rfl⟩
  | some json =>
    simp only [← optional_text_eq_ok_iff]
    cases optional text json with
    | error fault => simp [Except.map]
    | ok read => simp [Except.map]

theorem required_eq_ok_iff {name : String} {found : Option α} {value : α} :
    required name found = .ok value ↔ found = some value := by
  cases found <;> simp [required]

/-! ### Records of two parts -/

theorem accepts_pair {one two name : String} {first : Decoder α} {second : Decoder β}
    {firstForm : Json → α → Prop} {secondForm : Json → β → Prop} {make : α → β → γ}
    (left : Accepts first firstForm) (right : Accepts second secondForm) :
    Accepts
      (record name 2
        (fun positions => do
          let (a, positions) ← positions.next first
          let (b, positions) ← positions.next second
          return (make a b, positions))
        (fun members => do
          let b ← member? second members two
          let a ← member? first members one
          return make (← required one a) (← required two b)))
      (PairForm one two firstForm secondForm make) := by
  intro json value
  cases json with
  | object members =>
    simp only [record, bind_eq_ok_iff, required_eq_ok_iff, pure, Except.pure, Except.ok.injEq]
    constructor
    · rintro ⟨-, readRight, -, readLeft, a, rfl, b, rfl, rfl⟩
      obtain ⟨v, namedLeft, decodedLeft⟩ := member?_eq_some_iff.mp readLeft
      obtain ⟨w, namedRight, decodedRight⟩ := member?_eq_some_iff.mp readRight
      exact .named namedLeft namedRight ((left v a).mp decodedLeft) ((right w b).mp decodedRight)
    · intro form
      cases form with
      | @named _ v w a b namedLeft namedRight leftForm rightForm =>
        have readLeft := member?_eq_some_iff.mpr ⟨v, namedLeft, (left v a).mpr leftForm⟩
        have readRight := member?_eq_some_iff.mpr ⟨w, namedRight, (right w b).mpr rightForm⟩
        exact ⟨some b, readRight, some a, readLeft, a, rfl, b, rfl, rfl⟩
  | array items =>
    simp only [record, bind_eq_ok_iff, Prod.exists, Positions.next_eq_ok_iff,
      Positions.finish_eq_ok_iff, pure, Except.pure, Except.ok.injEq, Prod.mk.injEq]
    constructor
    · rintro ⟨-, -, ⟨a, -, ⟨v, -, rfl, readLeft, rfl⟩, b, -,
        ⟨w, rest, rfl, readRight, rfl⟩, rfl, rfl⟩, -, rfl, rfl⟩
      exact .listed ((left v a).mp readLeft) ((right w b).mp readRight)
    · intro form
      cases form with
      | @listed v w a b leftForm rightForm =>
        have readLeft := (left v a).mpr leftForm
        have readRight := (right w b).mpr rightForm
        exact ⟨make a b, _, ⟨a, _, ⟨v, [w], rfl, readLeft, rfl⟩, b, _,
          ⟨w, [], rfl, readRight, rfl⟩, rfl, rfl⟩, (), rfl, rfl⟩
  | _ =>
    constructor
    · intro read
      cases read
    · intro form
      cases form

end Decoder

end RowStamp.Json
