import RowStamp.Cli.Report
import RowStamp.Proofs.Host.Json

/-!
The report as a JSON document: it is read back as it is printed, and each of its members is the
part of the report that it is named for.
-/

set_option autoImplicit false
set_option relaxedAutoImplicit false

namespace RowStamp

open Json (Exact)

namespace Cli.Report

private theorem exact_toJson {report : Report} (counted : report.removed < UInt64.size) :
    Exact report.toJson := by
  have fits : Json.Reader.fits64 (report.removed : Int) = true := by
    have low : Int64.minValue.toInt ≤ 0 := by decide
    simp only [Json.Reader.fits64, Bool.and_eq_true, decide_eq_true_eq]
    omega
  apply Json.exact_ofMembers
  simp only [List.forall_mem_cons]
  exact ⟨.string _, .string _, .bool _,
    Json.exact_ofList ParameterMapping.exact_toJson report.bound.mappings, .integer fits, by simp⟩

theorem read?_text {report : Report} (counted : report.removed < UInt64.size) :
    Json.read? (report.text .json) = some report.toJson :=
  Json.read?_textIn (exact_toJson counted) (.lines 0) (show Json.Reader.Blank ['\n'] from rfl)

theorem member?_toJson (report : Report) :
    report.toJson.member? "originalSql" = some (.string report.given) ∧
      report.toJson.member? "sql" = some (.string report.bound.sql) ∧
      report.toJson.member? "changed" = some (.bool (report.bound.sql ≠ report.given)) ∧
      report.toJson.member? "parameterMappings" =
        some (.ofList ParameterMapping.toJson report.bound.mappings) ∧
      report.toJson.member? "removedBindings" = some (.integer report.removed) := by
  simp only [toJson, Json.member?_ofMembers]
  exact ⟨rfl, rfl, rfl, rfl, rfl⟩

end Cli.Report

end RowStamp
