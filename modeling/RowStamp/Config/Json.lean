import RowStamp.Config
import RowStamp.Json.Decode

/-!
Settings as JSON: a record of four texts, each of which may be absent or null.
-/

set_option autoImplicit false
set_option relaxedAutoImplicit false

namespace RowStamp

open Json (DecodeFault Decoder)

def RawConfig.decoder : Decoder RawConfig :=
  .record "RawAuditConfig" 4
    (fun positions => do
      let (createColumn, positions) ← positions.next (.optional .text)
      let (updateColumn, positions) ← positions.next (.optional .text)
      let (ignoreTables, positions) ← positions.next (.optional .text)
      let (sqlDialect, positions) ← positions.next (.optional .text)
      return (⟨createColumn, updateColumn, ignoreTables, sqlDialect⟩, positions))
    (fun members => do
      let text (name : String) : Except DecodeFault (Option String) :=
        (Decoder.member? (.optional .text) members name).map Option.join
      let createColumn ← text "createDateColumnName"
      let ignoreTables ← text "ignoreTables"
      let sqlDialect ← text "sqlDialect"
      let updateColumn ← text "updateDateColumnName"
      return ⟨createColumn, updateColumn, ignoreTables, sqlDialect⟩)

/-- Reads the settings; they are checked when all of their texts are read. -/
def AuditConfig.decoder : Decoder AuditConfig := fun json => do
  let raw ← RawConfig.decoder json
  raw.resolve.mapError .settings

end RowStamp
