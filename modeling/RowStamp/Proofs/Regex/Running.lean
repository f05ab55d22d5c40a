import RowStamp.Regex.Pattern

/-!
Running readers.  A reader is run from a state; what it comes to is followed through its steps, to a
result or to a fault.
-/

set_option autoImplicit false
set_option relaxedAutoImplicit false

namespace RowStamp.Regex

variable {α β : Type}

/-! ### Running a reader -/

/-- The state after white space and comments, where they are not part of the pattern. -/
def ReadState.spaced (st : ReadState) : ReadState :=
  if st.freeSpacing then
    let rest := Reader.skipSpaces false st.rest
    { st with rest := rest, place := st.place + (st.rest.length - rest.length) }
  else st

def ReadState.stepped (st : ReadState) : ReadState :=
  { st with rest := st.rest.drop 1, place := st.place + 1 : ReadState }.spaced

/-- The character after the next one, white space aside. -/
def ReadState.second (st : ReadState) : Option Char :=
  (if st.freeSpacing then Reader.skipSpaces false (st.rest.drop 1) else st.rest.drop 1).head?

namespace Reader

theorem bind_of_ok {r : Reader α} {st next : ReadState} {a : α} (read : r st = .ok (a, next))
    (f : α → Reader β) : (r >>= f) st = f a next := by
  simp only [bind, StateT.bind, read, Except.bind]

private theorem bind_of_error {r : Reader α} {st : ReadState} {fault : SyntaxFault}
    (failed : r st = .error fault) (f : α → Reader β) : (r >>= f) st = .error fault := by
  simp only [bind, StateT.bind, failed, Except.bind]

section Running

variable (st : ReadState)

@[simp] theorem pure_run (a : α) : (pure a : Reader α) st = .ok (a, st) := rfl

@[simp] theorem fault_run (cause : Cause) (span : Span) :
    (fault cause span : Reader α) st = .error ⟨cause, span, none⟩ := rfl

@[simp] theorem bump_run :
    bump st = .ok ((), { st with rest := st.rest.drop 1, place := st.place + 1 }) := rfl

@[simp] theorem space_run : space st = .ok ((), st.spaced) := rfl

@[simp] theorem step_run : step st = .ok ((), st.stepped) := rfl

@[simp] theorem fault_bind (cause : Cause) (span : Span) (f : α → Reader β) :
    (fault cause span >>= f) = fault cause span := rfl

@[simp] theorem get_bind (f : ReadState → Reader β) : (get >>= f) st = f st st := rfl

@[simp] theorem modify_bind (g : ReadState → ReadState) (f : PUnit → Reader β) :
    (modify g >>= f) st = f ⟨⟩ (g st) := rfl

@[simp] theorem place_bind (f : Nat → Reader β) : (place >>= f) st = f st.place st := rfl

@[simp] theorem peek_bind (f : Option Char → Reader β) :
    (peek >>= f) st = f st.rest.head? st := rfl

@[simp] theorem peekIs_bind (c : Char) (f : Bool → Reader β) :
    (peekIs c >>= f) st = f (st.rest.head? == some c) st := rfl

@[simp] theorem bump_bind (f : Unit → Reader β) :
    (bump >>= f) st = f () { st with rest := st.rest.drop 1, place := st.place + 1 } := rfl

@[simp] theorem space_bind (f : Unit → Reader β) : (space >>= f) st = f () st.spaced := rfl

@[simp] theorem step_bind (f : Unit → Reader β) : (step >>= f) st = f () st.stepped := rfl

@[simp] theorem here_bind (f : Span → Reader β) :
    (here >>= f) st = f ⟨st.place, st.place⟩ st := rfl

@[simp] theorem hereChar_bind (f : Span → Reader β) :
    (hereChar >>= f) st =
      f ⟨st.place, st.place + if st.rest.head?.isSome then 1 else 0⟩ st := rfl

@[simp] theorem peekSecond_bind (f : Option Char → Reader β) :
    (peekSecond >>= f) st = f st.second st := rfl

@[simp] theorem ite_run (c : Prop) [Decidable c] (r s : Reader α) :
    (if c then r else s) st = if c then r st else s st := by
  split <;> rfl

end Running

end Reader

/-! ### Outcomes -/

/-- A reading ends as given, or fails for another cause than a parenthesis that closes no group. -/
def Ends (holds : α → ReadState → Prop) : Except SyntaxFault (α × ReadState) → Prop
  | .ok (a, st) => holds a st
  | .error fault => fault.cause ≠ .unopenedGroup

theorem Ends.error {holds : α → ReadState → Prop} {fault : SyntaxFault}
    (other : fault.cause ≠ .unopenedGroup) : Ends holds (.error fault) := other

theorem Ends.mono {holds weaker : α → ReadState → Prop}
    {result : Except SyntaxFault (α × ReadState)} (ends : Ends holds result)
    (implies : ∀ a st, holds a st → weaker a st) : Ends weaker result := by
  cases result with
  | error fault => exact ends
  | ok pair => exact implies _ _ ends

theorem Ends.and {first second : α → ReadState → Prop}
    {result : Except SyntaxFault (α × ReadState)} (ends : Ends first result)
    (also : Ends second result) : Ends (fun a st => first a st ∧ second a st) result := by
  cases result with
  | error fault => exact ends
  | ok pair => exact ⟨ends, also⟩

theorem Ends.bind {r : Reader α} {f : α → Reader β} {st : ReadState}
    {first : α → ReadState → Prop} {last : β → ReadState → Prop} (ends : Ends first (r st))
    (next : ∀ a middle, first a middle → Ends last (f a middle)) : Ends last ((r >>= f) st) := by
  cases read : r st with
  | error fault =>
    rw [read] at ends
    rw [Reader.bind_of_error read]
    exact ends
  | ok pair =>
    rw [read] at ends
    rw [Reader.bind_of_ok read]
    exact next _ _ ends

theorem Ends.ite {c : Prop} [Decidable c] {r s : Reader α} {st : ReadState}
    {holds : α → ReadState → Prop} (first : Ends holds (r st)) (second : Ends holds (s st)) :
    Ends holds ((if c then r else s) st) := by
  split
  · exact first
  · exact second

end RowStamp.Regex
