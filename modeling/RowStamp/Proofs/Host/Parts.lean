import Mathlib.Tactic.SplitIfs
import RowStamp.Host.InPlace

/-!
Hosts in memory by their parts.  A path denotes a part of the handler behind a host, or nothing:
reading, setting a text and changing the bound statement agree on which, and a host that is changed
in place becomes what they make of it.
-/

set_option autoImplicit false
set_option relaxedAutoImplicit false

namespace RowStamp

open PropertyBag (value setText bound? setBound)
open InPlaceBag (write lend?)

/-! ### Parts -/

/-- The parts of a handler in memory that have paths. -/
inductive Part where
  | mapped
  | bound
  | text
  deriving DecidableEq, Repr

namespace Part

def at? (path : String) : Option Part :=
  if path = "mappedStatement" then some mapped
  else if path = "boundSql" then some bound
  else if path = "boundSql.sql" then some text
  else none

def value (state : HandlerState) : Part → HostValue
  | mapped => .mapped state.mapped
  | bound => .bound state.bound
  | text => .text state.bound.sql

private theorem at?_eq_text_iff {path : String} : at? path = some text ↔ path = "boundSql.sql" := by
  unfold at?
  split_ifs with mapped bound sql <;> simp_all

private theorem at?_eq_bound_iff {path : String} : at? path = some bound ↔ path = "boundSql" := by
  unfold at?
  split_ifs with mapped bound sql <;> simp_all

end Part

namespace HandlerState

def withSql (state : HandlerState) (text : String) : HandlerState :=
  { state with bound := { state.bound with sql := text } }

variable (state : HandlerState) (text other : String)

@[simp] theorem mapped_withSql : (state.withSql text).mapped = state.mapped := rfl

@[simp] theorem mappings_withSql : (state.withSql text).bound.mappings = state.bound.mappings := rfl

@[simp] theorem sql_withSql : (state.withSql text).bound.sql = text := rfl

@[simp] theorem withSql_withSql : (state.withSql text).withSql other = state.withSql other := rfl

end HandlerState

namespace HostValue

/-- A value once the text is another one; a bound statement keeps its mappings. -/
def withText (text : String) : HostValue → HostValue
  | .text _ => .text text
  | .mapped statement => .mapped statement
  | .bound given => .bound { given with sql := text }

def withBound (left : BoundSql) : HostValue → HostValue
  | .text _ => .text left.sql
  | .mapped statement => .mapped statement
  | .bound _ => .bound left

end HostValue

theorem Part.value_withSql (state : HandlerState) (text : String) (part : Part) :
    part.value (state.withSql text) = (part.value state).withText text := by
  cases part <;> rfl

theorem Part.value_withBound (state : HandlerState) (left : BoundSql) (part : Part) :
    part.value { state with bound := left } = (part.value state).withBound left := by
  cases part <;> rfl

/-! ### Hosts by their parts -/

/-- A host shows a handler in memory, each part of it at the paths that denote the part. -/
structure ShowsParts {σ : Type} [PropertyBag σ] (state : σ → HandlerState)
    (part? : String → Option Part) : Prop where
  value_eq : ∀ (host : σ) (path : String),
    value host path = (part? path).map (Part.value (state host))
  setText_isSome_iff : ∀ (host : σ) (path text : String),
    (setText host path text).isSome ↔ part? path = some .text
  state_setText : ∀ {host after : σ} {path text : String},
    setText host path text = some after → state after = (state host).withSql text
  bound?_eq : ∀ (host : σ) (path : String),
    bound? host path = if part? path = some .bound then some (state host).bound else none
  state_setBound : ∀ (host : σ) {path : String} (left : BoundSql), part? path = some .bound →
    state (setBound host path left) = { state host with bound := left }

/-- Changed in place, a host becomes what setting the text or the bound statement makes of it. -/
class LawfulInPlace (σ : Type) [PropertyBag σ] [InPlaceBag σ] : Prop where
  write_run : ∀ (given : TextWrite) (host : σ), (write given).run host =
    match setText host given.path given.text with
    | some after => (true, after)
    | none => (false, host)
  lend?_eq : ∀ (host : σ) (path : String),
    lend? host path = (bound? host path).map fun bound => ⟨bound, setBound host path⟩

namespace HandlerState

def properties (state : HandlerState) : List (String × HostValue) :=
  [("mappedStatement", .mapped state.mapped), ("boundSql", .bound state.bound),
    ("boundSql.sql", .text state.bound.sql)]

theorem value_eq_some_iff {state : HandlerState} {path : String} {found : HostValue} :
    value state path = some found ↔ (path, found) ∈ state.properties := by
  simp only [value, properties]
  split <;> simp_all [eq_comm]

theorem showsParts : ShowsParts (id : HandlerState → HandlerState) Part.at? where
  value_eq state path := by
    simp only [value, Part.at?]
    split <;> simp_all [Part.value]
  setText_isSome_iff state path text := by
    simp [setText, Part.at?_eq_text_iff]
  state_setText set := by
    simp only [setText, Option.ite_none_right_eq_some] at set
    exact (Option.some.inj set.2).symm
  bound?_eq state path := by
    simp only [bound?, Part.at?_eq_bound_iff]
    rfl
  state_setBound state path left denotes := by
    simp only [setBound, Part.at?_eq_bound_iff.mp denotes]
    rfl

instance : LawfulInPlace HandlerState where
  write_run given state := by
    by_cases denotes : given.path = "boundSql.sql"
    · simp only [write, setText, if_pos denotes, if_neg (not_not_intro denotes)]
      rfl
    · simp only [write, setText, if_neg denotes, if_pos denotes]
      rfl
  lend?_eq state path := by
    by_cases denotes : path = "boundSql"
    · simp [lend?, bound?, setBound, denotes]
    · simp [lend?, bound?, denotes]

end HandlerState

namespace RoutedHandler

/-- A path leads to the delegate exactly where it is the delegate's name, a dot and the path
there. -/
theorem innerPath?_eq_some_iff {path inner : String} :
    innerPath? path = some inner ↔ path = "delegate." ++ inner := by
  rw [innerPath?, Option.ite_none_right_eq_some, List.isPrefixOf_iff_prefix,
    List.prefix_iff_eq_append]
  constructor
  · rintro ⟨lead, same⟩
    have rest : inner.toList = path.toList.drop "delegate.".toList.length := by
      rw [← Option.some.inj same]
      exact String.toList_ofList
    rw [← String.toList_inj, String.toList_append, rest]
    exact lead.symm
  · rintro rfl
    simp

theorem innerPath?_eq_none {path : String} (apart : ∀ inner, path ≠ "delegate." ++ inner) :
    innerPath? path = none :=
  Option.eq_none_iff_forall_ne_some.mpr fun inner leads =>
    apart inner (innerPath?_eq_some_iff.mp leads)

section Routing

variable (handler : RoutedHandler) {path inner : String}

theorem value_eq_bind (path : String) :
    value handler path = (innerPath? path).bind (value handler.delegate) := rfl

private theorem setText_eq_bind (path text : String) : setText handler path text =
    (innerPath? path).bind fun inner =>
      (setText handler.delegate inner text).map RoutedHandler.mk := rfl

private theorem bound?_eq_bind (path : String) :
    bound? handler path = (innerPath? path).bind (bound? handler.delegate) := rfl

theorem lend?_eq_bind (path : String) : lend? handler path =
    (innerPath? path).bind fun inner =>
      (lend? handler.delegate inner).map (Loan.within RoutedHandler.mk) := rfl

private theorem setBound_of_some (left : BoundSql) (leads : innerPath? path = some inner) :
    setBound handler path left = ⟨setBound handler.delegate inner left⟩ := by
  simp only [setBound, leads]

theorem write_run_of_some (text : String) (leads : innerPath? path = some inner) :
    (write ⟨path, text⟩).run handler =
      (((write ⟨inner, text⟩).run handler.delegate).1,
        ⟨((write ⟨inner, text⟩).run handler.delegate).2⟩) := by
  simp only [write, leads]
  rfl

theorem write_run_of_none (text : String) (leads : innerPath? path = none) :
    (write ⟨path, text⟩).run handler = (false, handler) := by
  simp only [write, leads]
  rfl

end Routing

theorem showsParts : ShowsParts delegate fun path => (innerPath? path).bind Part.at? where
  value_eq handler path := by
    rw [value_eq_bind]
    cases innerPath? path with
    | none => rfl
    | some inner => exact HandlerState.showsParts.value_eq handler.delegate inner
  setText_isSome_iff handler path text := by
    rw [setText_eq_bind]
    cases innerPath? path with
    | none => simp
    | some inner =>
      rw [Option.bind_some, Option.bind_some, Option.isSome_map]
      exact HandlerState.showsParts.setText_isSome_iff handler.delegate inner text
  state_setText {handler after path text} set := by
    rw [setText_eq_bind] at set
    obtain ⟨inner, -, there⟩ := Option.bind_eq_some_iff.mp set
    obtain ⟨delegate, done, rfl⟩ := Option.map_eq_some_iff.mp there
    exact HandlerState.showsParts.state_setText done
  bound?_eq handler path := by
    rw [bound?_eq_bind]
    cases innerPath? path with
    | none => rfl
    | some inner => exact HandlerState.showsParts.bound?_eq handler.delegate inner
  state_setBound handler {path} left denotes := by
    obtain ⟨inner, leads, there⟩ := Option.bind_eq_some_iff.mp denotes
    rw [setBound_of_some handler left leads]
    exact HandlerState.showsParts.state_setBound handler.delegate left there

instance : LawfulInPlace RoutedHandler where
  write_run given handler := by
    obtain ⟨path, text⟩ := given
    rw [setText_eq_bind]
    cases leads : innerPath? path with
    | none => exact write_run_of_none handler text leads
    | some inner =>
      rw [write_run_of_some handler text leads, LawfulInPlace.write_run, Option.bind_some]
      cases setText handler.delegate inner text <;> rfl
  lend?_eq handler path := by
    rw [lend?_eq_bind, bound?_eq_bind]
    cases leads : innerPath? path with
    | none => rfl
    | some inner =>
      have back : setBound handler path = fun left => ⟨setBound handler.delegate inner left⟩ :=
        funext fun left => setBound_of_some handler left leads
      rw [Option.bind_some, Option.bind_some, LawfulInPlace.lend?_eq, Option.map_map, back]
      rfl

end RoutedHandler

end RowStamp
