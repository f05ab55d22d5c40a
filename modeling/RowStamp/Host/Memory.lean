import RowStamp.Host.Intercept

/-!
Targets in memory: a handler of statements or of parameters over one bound statement.
-/

set_option autoImplicit false
set_option relaxedAutoImplicit false

namespace RowStamp

/-- A handler in memory that a call is made on. -/
inductive MemoryTarget where
  | statement (handler : RoutedHandler)
  | parameter (state : HandlerState)
  deriving DecidableEq, Repr

namespace MemoryTarget

/-- A target for a bound statement; only a parameter handler is not a statement handler. -/
def ofRole (role : Role) (mapped : MappedStatement) (bound : BoundSql) : MemoryTarget :=
  match role with
  | .parameterHandler => parameter ⟨mapped, bound⟩
  | _ => statement ⟨⟨mapped, bound⟩⟩

def role : MemoryTarget → Role
  | statement _ => .statementHandler
  | parameter _ => .parameterHandler

def bound : MemoryTarget → BoundSql
  | statement handler => handler.delegate.bound
  | parameter state => state.bound

instance : PropertyBag MemoryTarget where
  value
    | statement handler, path => PropertyBag.value handler path
    | parameter state, path => PropertyBag.value state path
  setText
    | statement handler, path, text => (PropertyBag.setText handler path text).map statement
    | parameter state, path, text => (PropertyBag.setText state path text).map parameter
  bound?
    | statement handler, path => PropertyBag.bound? handler path
    | parameter state, path => PropertyBag.bound? state path
  setBound
    | statement handler, path, bound => statement (PropertyBag.setBound handler path bound)
    | parameter state, path, bound => parameter (PropertyBag.setBound state path bound)

end MemoryTarget

end RowStamp
