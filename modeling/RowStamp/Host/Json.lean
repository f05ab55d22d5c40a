import RowStamp.Host.Basic
import RowStamp.Json.Decode

/-!
Host data as JSON: parameter mappings, bound statements, kinds of statements and mapped
statements.
-/

set_option autoImplicit false
set_option relaxedAutoImplicit false

namespace RowStamp

open Json (DecodeFault Decoder)

namespace ParameterMapping

def toJson (mapping : ParameterMapping) : Json :=
  .ofMembers <|
    ("property", .string mapping.property) ::
      (mapping.jdbcType.map fun type => ("jdbcType", Json.string type)).toList

/-- Reads a mapping; its type may be absent. -/
def decoder : Decoder ParameterMapping :=
  .record "ParameterMapping" 2
    (fun positions => do
      let (property, positions) ← positions.next .text
      let (type, positions) ← positions.next? (.optional .text)
      return (⟨property, type⟩, positions))
    (fun members => do
      let type ← Decoder.member? (.optional .text) members "jdbcType"
      let property ← Decoder.member? .text members "property"
      return ⟨← Decoder.required "property" property, type.join⟩)

end ParameterMapping

namespace BoundSql

def toJson (bound : BoundSql) : Json :=
  .ofMembers [
    ("sql", .string bound.sql),
    ("parameterMappings", .ofList ParameterMapping.toJson bound.mappings)]

def decoder : Decoder BoundSql :=
  .record "BoundSql" 2
    (fun positions => do
      let (sql, positions) ← positions.next .text
      let (mappings, positions) ← positions.next (.list ParameterMapping.decoder)
      return (⟨sql, mappings⟩, positions))
    (fun members => do
      let mappings ← Decoder.member? (.list ParameterMapping.decoder) members "parameterMappings"
      let sql ← Decoder.member? .text members "sql"
      return ⟨← Decoder.required "sql" sql, ← Decoder.required "parameterMappings" mappings⟩)

end BoundSql

namespace StatementKind

def all : List StatementKind := [insert, update, other]

def toJson (kind : StatementKind) : Json := .string kind.label

def decoder : Decoder StatementKind := .variant (all.map label) ofLabel?

end StatementKind

namespace MappedStatement

def toJson (statement : MappedStatement) : Json :=
  .ofMembers [("id", .string statement.id), ("command", statement.command.toJson)]

def decoder : Decoder MappedStatement :=
  .record "MappedStatement" 2
    (fun positions => do
      let (id, positions) ← positions.next .text
      let (command, positions) ← positions.next StatementKind.decoder
      return (⟨id, command⟩, positions))
    (fun members => do
      let command ← Decoder.member? StatementKind.decoder members "command"
      let id ← Decoder.member? .text members "id"
      return ⟨← Decoder.required "id" id, ← Decoder.required "command" command⟩)

end MappedStatement

end RowStamp
