import RowStamp.Proofs.Stamp.Pieces

/-!
The account of the placeholders of a stamped statement: those inside of the overwritten pieces are
gone and no other ones.  After the bind phase a statement has as many mappings as placeholders
exactly where as many mappings bind audit columns as placeholders are gone.
-/

set_option autoImplicit false
set_option relaxedAutoImplicit false

namespace RowStamp

open Sql (Statement)
open Stamp (Piece)

private theorem AuditColumns.removedCount_eq (columns : AuditColumns)
    (mappings : List ParameterMapping) :
    columns.removedCount mappings = mappings.countP fun mapping =>
      mapping.property = columns.createProperty ∨ mapping.property = columns.updateProperty := by
  refine List.countP_congr fun mapping _ => ?_
  simp [columns.binds_iff]

namespace Stamp

/-- The pieces of a statement, none of which is overwritten unless it is an INSERT or an UPDATE. -/
def pieces (columns : AuditColumns) : Statement → List Piece
  | .insert stmt => insertPieces columns stmt
  | .update stmt => updatePieces columns stmt
  | other => Piece.untouched other.fragments

/-- An INSERT or an UPDATE before and after it is stamped. -/
inductive Stamps (columns : AuditColumns) (time : Timestamp) : Statement → Statement → Prop
  | insert (stmt stamped : Sql.Insert) (ok : Stamp.insert columns time stmt = .ok stamped) :
      Stamps columns time (.insert stmt) (.insert stamped)
  | update (stmt stamped : Sql.Update) (ok : Stamp.update columns time stmt = .ok stamped) :
      Stamps columns time (.update stmt) (.update stamped)

private theorem placeholders_eq_pieces (columns : AuditColumns) (statement : Statement) :
    statement.placeholders = (pieces columns statement).flatMap Piece.placeholders := by
  unfold pieces
  split
  · rw [flatMap_placeholders_insertPieces]
  · rw [flatMap_placeholders_updatePieces]
  · rw [Piece.flatMap_placeholders_untouched, Statement.placeholders_eq]

variable {columns : AuditColumns} {time : Timestamp} {statement stamped : Statement}

private theorem Stamps.placeholders (stamps : Stamps columns time statement stamped) :
    stamped.placeholders = Piece.left (pieces columns statement) := by
  cases stamps with
  | insert stmt stamped ok => exact (left_insertPieces ok).symm
  | update stmt stamped ok => exact (left_updatePieces ok).symm

/-- Stamping takes from the placeholders of a statement exactly those inside of the pieces that it
overwrites, and after the bind phase there are as many mappings as placeholders exactly where as
many mappings bind audit columns. -/
theorem stamping_accounts_for_placeholders (stamps : Stamps columns time statement stamped) :
    statement.placeholders = (pieces columns statement).flatMap Piece.placeholders ∧
      stamped.placeholders =
        ((pieces columns statement).filter (!·.isOverwritten)).flatMap Piece.placeholders ∧
      stamped.placeholders.length + Piece.overwrittenCount (pieces columns statement) =
        statement.placeholders.length ∧
      ∀ mappings : List ParameterMapping, mappings.length = statement.placeholders.length →
        ((columns.remaining mappings).length = stamped.placeholders.length ↔
          (mappings.countP fun mapping => mapping.property = columns.createProperty ∨
            mapping.property = columns.updateProperty) =
              Piece.overwrittenCount (pieces columns statement)) := by
  have given := placeholders_eq_pieces columns statement
  have left := stamps.placeholders
  have counts : stamped.placeholders.length + Piece.overwrittenCount (pieces columns statement) =
      statement.placeholders.length := by
    rw [given, left, Piece.length_left_add_overwrittenCount]
  refine ⟨given, left, counts, fun mappings same => ?_⟩
  rw [← columns.removedCount_eq]
  have removed := columns.removedCount_add_remaining mappings
  omega

/-- The modification column is declared twice, and one of its values holds two placeholders. -/
def nestedInsert : Sql.Insert :=
  Sql.plainInsert ["gmt_modified", "a", "gmt_modified"]
    [[.placeholder "$1", .placeholder "$2",
        .nested (.binary (.placeholder "$3") "+" (.placeholder "$4"))],
      [.literal .null, .placeholder "$5", .placeholder "$6"]]

def stampedNested : Sql.Insert :=
  Sql.plainInsert ["gmt_modified", "a", "gmt_modified", "gmt_create"]
    [[.placeholder "$1", .placeholder "$2", Timestamp.plain.expr, Timestamp.plain.expr],
      [.literal .null, .placeholder "$5", Timestamp.plain.expr, Timestamp.plain.expr]]

def tupleUpdate : Sql.Update :=
  { Sql.plainUpdate [] (some (.binary (.name [.plain "gmt_modified"]) "=" (.placeholder "$4"))) with
    assignments := [⟨.tuple [[.plain "a"], [.plain "gmt_modified"]],
      .tuple [.placeholder "$1", .binary (.placeholder "$2") "+" (.placeholder "$3")]⟩] }

def stampedTuple : Sql.Update :=
  { tupleUpdate with
    assignments := [⟨.tuple [[.plain "a"], [.plain "gmt_modified"]],
      .tuple [.placeholder "$1", Timestamp.plain.expr]⟩] }

def untyped (properties : List String) : List ParameterMapping := properties.map (⟨·, none⟩)

/-- An INSERT and an UPDATE, the first with as many mappings of audit columns as placeholders go,
the second with one too many. -/
theorem stamping_accounts_for_placeholders_nested :
    (Statement.insert stampedNested).placeholders = ["$1", "$2", "$5"] ∧
      (AuditColumns.standard.remaining
        (untyped ["b", "a", "gmtModified", "gmtModified", "a", "gmtModified"])).length =
          (Statement.insert stampedNested).placeholders.length ∧
      (Statement.update stampedTuple).placeholders = ["$1", "$4"] ∧
      (AuditColumns.standard.remaining
        (untyped ["a", "gmtModified", "gmtModified", "gmtModified"])).length ≠
          (Statement.update stampedTuple).placeholders.length := by
  have inserted : insert .standard .plain nestedInsert = .ok stampedNested := by rfl
  have updated : update .standard .plain tupleUpdate = .ok stampedTuple := by rfl
  obtain ⟨rows, rowsLeft, -, rowsBound⟩ :=
    stamping_accounts_for_placeholders (.insert _ _ inserted)
  obtain ⟨set, setLeft, -, setBound⟩ := stamping_accounts_for_placeholders (.update _ _ updated)
  refine ⟨rowsLeft.trans (by decide +kernel), (rowsBound _ ?_).mpr (by decide +kernel),
    setLeft.trans (by decide +kernel), fun same => absurd ((setBound _ ?_).mp same) ?_⟩
  · rw [rows]
    decide +kernel
  · rw [set]
    decide +kernel
  · decide +kernel

end Stamp

end RowStamp
