import Mathlib.Data.List.Forall2
import RowStamp.Proofs.Host.Parts

/-!
What reading, writing and lending owe to each other on the hosts in memory.  The text, which is
read by itself and within the bound statement, is one text: every write that is answered with yes
replaces it, one that is answered with no leaves the host as it was, and a run of writes leaves the
last text that was set.
-/

set_option autoImplicit false
set_option relaxedAutoImplicit false

namespace RowStamp

open PropertyBag (value setText)
open InPlaceBag (write writeAll lend?)

/-! ### One step -/

namespace ShowsParts

section Reading

variable {σ : Type} [PropertyBag σ] {state : σ → HandlerState} {part? : String → Option Part}
  (shows : ShowsParts state part?) {host after : σ} {path : String}

include shows

private theorem exists_text_iff :
    (∃ old, value host path = some (.text old)) ↔ part? path = some .text := by
  rw [shows.value_eq]
  rcases part? path with - | (- | - | -) <;> simp [Part.value]

private theorem value_eq_bound_iff {bound : BoundSql} :
    value host path = some (.bound bound) ↔
      part? path = some .bound ∧ (state host).bound = bound := by
  rw [shows.value_eq]
  rcases part? path with - | (- | - | -) <;> simp [Part.value]

private theorem value_of_withSql {text : String} (changed : state after = (state host).withSql text)
    (path : String) : value after path = (value host path).map (HostValue.withText text) := by
  rw [shows.value_eq, shows.value_eq, changed, Option.map_map]
  exact congrArg (Option.map · _) (funext (Part.value_withSql (state host) text))

private theorem value_of_withBound {left : BoundSql}
    (changed : state after = { state host with bound := left }) (path : String) :
    value after path = (value host path).map (HostValue.withBound left) := by
  rw [shows.value_eq, shows.value_eq, changed, Option.map_map]
  exact congrArg (Option.map · _) (funext (Part.value_withBound (state host) left))

end Reading

section InPlace

variable {σ : Type} [PropertyBag σ] [InPlaceBag σ] [LawfulInPlace σ] {state : σ → HandlerState}
  {part? : String → Option Part} (shows : ShowsParts state part?)

include shows

private theorem write_cases (host : σ) (given : TextWrite) :
    (part? given.path = some .text ∧ ∃ after, (write given).run host = (true, after) ∧
        state after = (state host).withSql given.text) ∨
      part? given.path ≠ some .text ∧ (write given).run host = (false, host) := by
  have denotes := shows.setText_isSome_iff host given.path given.text
  rw [LawfulInPlace.write_run]
  cases set : setText host given.path given.text with
  | none => exact .inr ⟨by simpa [set] using denotes, rfl⟩
  | some after => exact .inl ⟨by simpa [set] using denotes, after, rfl, shows.state_setText set⟩

private theorem lend?_cases (host : σ) (path : String) :
    (part? path = some .bound ∧ ∃ loan, lend? host path = some loan ∧
        loan.bound = (state host).bound ∧
        ∀ left, state (loan.giveBack left) = { state host with bound := left }) ∨
      part? path ≠ some .bound ∧ lend? host path = none := by
  rw [LawfulInPlace.lend?_eq, shows.bound?_eq]
  by_cases denotes : part? path = some .bound
  · rw [if_pos denotes]
    exact .inl ⟨denotes, _, rfl, rfl, fun left => shows.state_setBound host left denotes⟩
  · rw [if_neg denotes]
    exact .inr ⟨denotes, rfl⟩

end InPlace

end ShowsParts

/-! ### Runs of writes -/

/-- The text of the last write that was answered with yes, or else the given text. -/
def lastText (given : String) (writes : List TextWrite) (answers : List Bool) : String :=
  (((writes.zip answers).filter (·.2)).getLast?.map (·.1.text)).getD given

private theorem lastText_cons (given : String) (first : TextWrite) (rest : List TextWrite)
    (answer : Bool) (answers : List Bool) :
    lastText given (first :: rest) (answer :: answers) =
      lastText (if answer then first.text else given) rest answers := by
  cases answer with
  | false => rfl
  | true =>
    rw [lastText, List.zip_cons_cons, List.filter_cons_of_pos rfl, List.getLast?_cons,
      Option.map_some, Option.getD_some, if_pos rfl, lastText]
    exact (Option.getD_map (fun made : TextWrite × Bool => made.1.text) (first, true) _).symm

private theorem writeAll_cons_run {σ : Type} [InPlaceBag σ] (first : TextWrite)
    (rest : List TextWrite) (host : σ) : (writeAll (first :: rest)).run host =
      let now := (write first).run host
      let later := (writeAll rest).run now.2
      (now.1 :: later.1, later.2) := by
  rw [writeAll, List.mapM_cons]
  rfl

private theorem ShowsParts.writeAll_run {σ : Type} [PropertyBag σ] [InPlaceBag σ] [LawfulInPlace σ]
    {state : σ → HandlerState} {part? : String → Option Part} (shows : ShowsParts state part?)
    (host : σ) (writes : List TextWrite) :
    ((writeAll writes).run host).1 =
        writes.map (fun given => decide (part? given.path = some .text)) ∧
      state ((writeAll writes).run host).2 = (state host).withSql
        (lastText (state host).bound.sql writes ((writeAll writes).run host).1) := by
  induction writes generalizing host with
  | nil => exact ⟨rfl, rfl⟩
  | cons first rest ih =>
    rw [writeAll_cons_run, lastText_cons]
    rcases shows.write_cases host first with ⟨denotes, next, done, changed⟩ | ⟨absent, done⟩
    · obtain ⟨answers, left⟩ := ih next
      rw [done]
      -- The rest of the run starts from the text that was just set, over the same mappings.
      rw [changed, HandlerState.sql_withSql, HandlerState.withSql_withSql] at left
      exact ⟨by simp [denotes, answers], left⟩
    · obtain ⟨answers, left⟩ := ih host
      rw [done]
      exact ⟨by simp [absent, answers], left⟩

/-- Without the delegate's name a path finds no text, and the path of the bound statement finds
another value. -/
example :
    let host : RoutedHandler := ⟨⟨"m", .insert⟩, ⟨"given", []⟩⟩
    let done := (writeAll [⟨"delegate.boundSql.sql", "first"⟩, ⟨"boundSql.sql", "second"⟩,
      ⟨"delegate.boundSql", "third"⟩]).run host
    done.1 = [true, false, false] ∧ done.2 = ⟨⟨⟨"m", .insert⟩, ⟨"first", []⟩⟩⟩ := by
  decide +kernel

/-! ### The laws -/

/-- What reading, writing and lending owe to each other on a host over one handler. -/
structure GetSetLaws {σ : Type} [PropertyBag σ] [InPlaceBag σ] (state : σ → HandlerState) :
    Prop where
  writes_iff : ∀ (host : σ) (given : TextWrite),
    ((write given).run host).1 = true ↔ ∃ old, value host given.path = some (.text old)
  written : ∀ (host : σ) (given : TextWrite), ((write given).run host).1 = true →
    let after := ((write given).run host).2
    value after given.path = some (.text given.text) ∧
      (∀ path, value after path = (value host path).map (HostValue.withText given.text)) ∧
      state after = (state host).withSql given.text
  refused : ∀ (host : σ) (given : TextWrite), ((write given).run host).1 = false →
    ((write given).run host).2 = host
  lends_iff : ∀ (host : σ) (path : String),
    (lend? host path).isSome ↔ ∃ bound, value host path = some (.bound bound)
  lent : ∀ (host : σ) (path : String) (loan : Loan σ), lend? host path = some loan →
    value host path = some (.bound loan.bound) ∧ ∀ left,
      value (loan.giveBack left) path = some (.bound left) ∧
      (∀ other, value (loan.giveBack left) other =
        (value host other).map (HostValue.withBound left)) ∧
      state (loan.giveBack left) = { state host with bound := left }
  run : ∀ (host : σ) (writes : List TextWrite),
    let answers := ((writeAll writes).run host).1
    let after := ((writeAll writes).run host).2
    let last := lastText (state host).bound.sql writes answers
    List.Forall₂ (fun given answer => answer = true ↔
        ∃ old, value host given.path = some (.text old)) writes answers ∧
      (state after).mapped = (state host).mapped ∧
      (state after).bound.mappings = (state host).bound.mappings ∧
      (state after).bound.sql = last ∧
      ∀ path, value after path = (value host path).map (HostValue.withText last)

private theorem ShowsParts.getSetLaws {σ : Type} [PropertyBag σ] [InPlaceBag σ] [LawfulInPlace σ]
    {state : σ → HandlerState} {part? : String → Option Part} (shows : ShowsParts state part?) :
    GetSetLaws state where
  writes_iff host given := by
    rw [shows.exists_text_iff]
    rcases shows.write_cases host given with ⟨denotes, after, done, -⟩ | ⟨absent, done⟩
    · simp [done, denotes]
    · simp [done, absent]
  written host given accepted := by
    rcases shows.write_cases host given with ⟨denotes, after, done, changed⟩ | ⟨-, done⟩
    · obtain ⟨old, found⟩ := shows.exists_text_iff.mpr denotes
      have reads := shows.value_of_withSql changed
      rw [done]
      refine ⟨?_, reads, changed⟩
      rw [reads, found]
      rfl
    · simp [done] at accepted
  refused host given refused := by
    rcases shows.write_cases host given with ⟨-, after, done, -⟩ | ⟨-, done⟩
    · simp [done] at refused
    · rw [done]
  lends_iff host path := by
    simp only [shows.value_eq_bound_iff]
    rcases shows.lend?_cases host path with ⟨denotes, loan, lent, -⟩ | ⟨absent, none⟩
    · simp [lent, denotes]
    · simp [none, absent]
  lent host path loan given := by
    rcases shows.lend?_cases host path with ⟨denotes, loan', lent, same, back⟩ | ⟨-, none⟩
    · obtain rfl : loan' = loan := Option.some.inj (lent.symm.trans given)
      have found : value host path = some (.bound loan'.bound) :=
        shows.value_eq_bound_iff.mpr ⟨denotes, same.symm⟩
      refine ⟨found, fun left => ?_⟩
      have reads := shows.value_of_withBound (back left)
      refine ⟨?_, reads, back left⟩
      rw [reads, found]
      rfl
    · rw [none] at given
      simp at given
  run host writes := by
    obtain ⟨answers, left⟩ := shows.writeAll_run host writes
    refine ⟨?_, by simp [left], by simp [left], by simp [left], shows.value_of_withSql left⟩
    rw [answers, List.forall₂_map_right_iff, List.forall₂_same]
    intro given _
    rw [shows.exists_text_iff, decide_eq_true_iff]

/-- A handler in memory and one that routes to it read what was written and lend out what is read.
Of all paths the handler has three; the routed one has these behind the delegate's name, and no
other path finds anything in it. -/
theorem memory_hosts_obey_getSetLaws :
    GetSetLaws (id : HandlerState → HandlerState) ∧ GetSetLaws RoutedHandler.delegate ∧
      (∀ (state : HandlerState) (path : String) (found : HostValue),
        value state path = some found ↔ (path, found) ∈ state.properties) ∧
      (∀ (handler : RoutedHandler) (inner : String),
        value handler ("delegate." ++ inner) = value handler.delegate inner ∧
        (∀ text,
          let done := (write ⟨inner, text⟩).run handler.delegate
          (write ⟨"delegate." ++ inner, text⟩).run handler = (done.1, ⟨done.2⟩)) ∧
        lend? handler ("delegate." ++ inner) =
          (lend? handler.delegate inner).map (Loan.within RoutedHandler.mk)) ∧
      ∀ (handler : RoutedHandler) (path : String), (∀ inner, path ≠ "delegate." ++ inner) →
        value handler path = none ∧
          (∀ text, (write ⟨path, text⟩).run handler = (false, handler)) ∧
          lend? handler path = none := by
  refine ⟨HandlerState.showsParts.getSetLaws, RoutedHandler.showsParts.getSetLaws, ?_, ?_, ?_⟩
  · intro state path found
    exact HandlerState.value_eq_some_iff
  · intro handler inner
    have leads := RoutedHandler.innerPath?_eq_some_iff.mpr (Eq.refl ("delegate." ++ inner))
    refine ⟨?_, fun text => handler.write_run_of_some text leads, ?_⟩
    · rw [RoutedHandler.value_eq_bind, leads, Option.bind_some]
    · rw [RoutedHandler.lend?_eq_bind, leads, Option.bind_some]
  · intro handler path apart
    have leads := RoutedHandler.innerPath?_eq_none apart
    refine ⟨?_, fun text => handler.write_run_of_none text leads, ?_⟩
    · rw [RoutedHandler.value_eq_bind, leads, Option.bind_none]
    · rw [RoutedHandler.lend?_eq_bind, leads, Option.bind_none]

end RowStamp
