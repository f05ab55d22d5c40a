import RowStamp.Interceptor

/-!
The bind phase in place, step by step.  A mapping that goes is warned about when the pass over the
mappings comes to it; a step that fails ends the run and leaves whatever was changed before it.
-/

set_option autoImplicit false
set_option relaxedAutoImplicit false

namespace RowStamp

/-- A bound statement while its bindings are reconciled, and what is logged meanwhile. -/
structure Reconciling where
  bound : BoundSql
  log : List Event
  deriving DecidableEq, Repr

/-- Steps that change a bound statement, add to the log and may fail between two changes. -/
abbrev BindSteps (α : Type) := EStateM Failure Reconciling α

def record (event : Event) : BindSteps Unit :=
  modify fun s => { s with log := s.log ++ [event] }

namespace AuditColumns

/-- Whether a mapping stays.  One that binds an audit column goes, with a warning. -/
def keeps (columns : AuditColumns) (mapping : ParameterMapping) : BindSteps Bool := do
  match columns.columnOf? mapping.property with
  | none => return true
  | some column =>
    record (.droppedBinding column mapping.property)
    return false

/-- The mappings that stay, looked at one after the other. -/
def retained (columns : AuditColumns) : List ParameterMapping → BindSteps (List ParameterMapping)
  | [] => return []
  | mapping :: rest => do
    let stays ← columns.keeps mapping
    let left ← columns.retained rest
    return if stays then mapping :: left else left

def dropBindings (columns : AuditColumns) : BindSteps Nat := do
  let before := (← get).bound.mappings
  let left ← columns.retained before
  modify fun s => { s with bound := { s.bound with mappings := left } }
  return before.length - left.length

end AuditColumns

/-- Reconciles the bindings of a statement that a host gives a kind, and counts the mappings that
are dropped. -/
def AuditConfig.reconcileInPlace (config : AuditConfig) (kind : StatementKind) :
    BindSteps Nat := do
  if kind = .other then return 0
  let statement ← MonadExcept.ofExcept (parseStatement config.dialect (← get).bound.sql)
  let audited ← MonadExcept.ofExcept (Stamp.isAudited config kind statement)
  if !audited then return 0
  let removed ← config.columns.dropBindings
  let bound := (← get).bound
  let placeholders := statement.placeholders.length
  if placeholders ≠ bound.mappings.length then
    record (.unevenBindings bound.mappings.length placeholders bound.sql)
  return removed

end RowStamp
