import RowStamp.Naming
import RowStamp.Event

/-!
Bound parameters: the properties that a host binds to the placeholders of a statement, and the
removal of those that audit columns no longer need.
-/

set_option autoImplicit false
set_option relaxedAutoImplicit false

namespace RowStamp

/-- One parameter of a statement: the property that is bound and perhaps its type. -/
structure ParameterMapping where
  property : String
  jdbcType : Option String
  deriving DecidableEq, Repr

/-- The text of a statement and the parameters bound to its placeholders, in order. -/
structure BoundSql where
  sql : String
  mappings : List ParameterMapping
  deriving DecidableEq, Repr

structure AuditColumns where
  create : String
  update : String
  deriving DecidableEq, Repr

namespace AuditColumns

def standard : AuditColumns := ⟨"gmt_create", "gmt_modified"⟩

def createProperty (columns : AuditColumns) : String := Naming.camelCase columns.create

def updateProperty (columns : AuditColumns) : String := Naming.camelCase columns.update

/-- The audit column that a property is bound to, if it is bound to one. -/
def columnOf? (columns : AuditColumns) (property : String) : Option String :=
  if property = columns.createProperty then some columns.create
  else if property = columns.updateProperty then some columns.update
  else none

def binds (columns : AuditColumns) (mapping : ParameterMapping) : Bool :=
  (columns.columnOf? mapping.property).isSome

def remaining (columns : AuditColumns) (mappings : List ParameterMapping) :
    List ParameterMapping :=
  mappings.filter (!columns.binds ·)

def removedCount (columns : AuditColumns) (mappings : List ParameterMapping) : Nat :=
  mappings.countP columns.binds

def warnings (columns : AuditColumns) (mappings : List ParameterMapping) : List Event :=
  mappings.filterMap fun mapping =>
    (columns.columnOf? mapping.property).map (Event.droppedBinding · mapping.property)

end AuditColumns

end RowStamp
