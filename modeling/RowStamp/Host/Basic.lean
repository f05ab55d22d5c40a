import RowStamp.Binding

/-!
Hosts: objects whose properties are read and written by path.  A host's text may be replaced and
its bound statement may be changed in place; nothing else of it can be written.
-/

set_option autoImplicit false
set_option relaxedAutoImplicit false

namespace RowStamp

/-- A statement that a host knows by name. -/
structure MappedStatement where
  id : String
  command : StatementKind
  deriving DecidableEq, Repr

inductive HostValue where
  | text (s : String)
  | mapped (statement : MappedStatement)
  | bound (sql : BoundSql)
  deriving DecidableEq, Repr

/-- Objects with properties that are found by path.  Setting a text fails where there is no text
to set. -/
class PropertyBag (σ : Type) where
  value : σ → String → Option HostValue
  setText : σ → String → String → Option σ
  bound? : σ → String → Option BoundSql
  setBound : σ → String → BoundSql → σ

/-- A handler in memory: a mapped statement and its bound text. -/
structure HandlerState where
  mapped : MappedStatement
  bound : BoundSql
  deriving DecidableEq, Repr

namespace HandlerState

instance : PropertyBag HandlerState where
  value state path :=
    match path with
    | "mappedStatement" => some (.mapped state.mapped)
    | "boundSql" => some (.bound state.bound)
    | "boundSql.sql" => some (.text state.bound.sql)
    | _ => none
  setText state path text :=
    if path = "boundSql.sql" then some { state with bound := { state.bound with sql := text } }
    else none
  bound? state path := if path = "boundSql" then some state.bound else none
  setBound state path bound := if path = "boundSql" then { state with bound := bound } else state

end HandlerState

/-- A handler whose properties are those of the handler that it delegates to, one level down. -/
structure RoutedHandler where
  delegate : HandlerState
  deriving DecidableEq, Repr

namespace RoutedHandler

def innerPath? (path : String) : Option String :=
  let lead := "delegate.".toList
  if lead.isPrefixOf path.toList then some (String.ofList (path.toList.drop lead.length))
  else none

instance : PropertyBag RoutedHandler where
  value handler path := (innerPath? path).bind (PropertyBag.value handler.delegate)
  setText handler path text :=
    (innerPath? path).bind fun inner =>
      (PropertyBag.setText handler.delegate inner text).map RoutedHandler.mk
  bound? handler path := (innerPath? path).bind (PropertyBag.bound? handler.delegate)
  setBound handler path bound :=
    match innerPath? path with
    | some inner => ⟨PropertyBag.setBound handler.delegate inner bound⟩
    | none => handler

end RoutedHandler

/-- A host that is a finite map from paths to values, perhaps read-only. -/
structure FlatHost where
  entries : List (String × HostValue)
  readOnly : Bool
  deriving DecidableEq, Repr

namespace FlatHost

def replace (path : String) (value : HostValue) :
    List (String × HostValue) → List (String × HostValue)
  | [] => []
  | entry :: rest =>
    if entry.1 = path then (path, value) :: rest else entry :: replace path value rest

instance : PropertyBag FlatHost where
  value host path := host.entries.lookup path
  setText host path text :=
    match host.readOnly, host.entries.lookup path with
    | false, some (.text _) => some { host with entries := replace path (.text text) host.entries }
    | _, _ => none
  bound? host path :=
    match host.entries.lookup path with
    | some (.bound sql) => some sql
    | _ => none
  setBound host path bound := { host with entries := replace path (.bound bound) host.entries }

end FlatHost

end RowStamp
