import RowStamp.Host.Basic

/-!
Hosts in memory, changed in place.  Setting a text answers whether it was set, and whatever was
changed before the answer stands.  A bound statement is lent out for a change, and the host is the
changed one when it comes back.
-/

set_option autoImplicit false
set_option relaxedAutoImplicit false

namespace RowStamp

/-- A bound statement that is lent out for a change: as it stands, and what becomes of the lender
when another one comes back. -/
structure Loan (σ : Type) where
  bound : BoundSql
  giveBack : BoundSql → σ

def Loan.within {σ τ : Type} (whole : σ → τ) (loan : Loan σ) : Loan τ :=
  ⟨loan.bound, fun bound => whole (loan.giveBack bound)⟩

structure TextWrite where
  path : String
  text : String
  deriving DecidableEq, Repr

/-- Objects whose properties are changed in place.  A write answers whether there was a text to
set. -/
class InPlaceBag (σ : Type) where
  write : TextWrite → StateM σ Bool
  lend? : σ → String → Option (Loan σ)

/-- Writes one after the other, with the answer to each. -/
def InPlaceBag.writeAll {σ : Type} [InPlaceBag σ] (writes : List TextWrite) :
    StateM σ (List Bool) :=
  writes.mapM write

open InPlaceBag (write lend?)

instance : InPlaceBag HandlerState where
  write given := do
    if given.path ≠ "boundSql.sql" then return false
    modify fun state => { state with bound := { state.bound with sql := given.text } }
    return true
  lend? state path :=
    if path = "boundSql" then some ⟨state.bound, fun bound => { state with bound := bound }⟩
    else none

namespace RoutedHandler

def onDelegate {α : Type} (steps : StateM HandlerState α) : StateM RoutedHandler α := do
  let (answer, delegate) := steps.run (← get).delegate
  modify fun handler => { handler with delegate := delegate }
  return answer

instance : InPlaceBag RoutedHandler where
  write given :=
    match innerPath? given.path with
    | some inner => onDelegate (write ⟨inner, given.text⟩)
    | none => return false
  lend? handler path :=
    (innerPath? path).bind fun inner =>
      (lend? handler.delegate inner).map (Loan.within RoutedHandler.mk)

end RoutedHandler

end RowStamp
