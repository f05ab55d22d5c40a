import RowStamp.Proofs.Sql.InsertRecovery
import RowStamp.Proofs.Sql.UpdateRecovery

/-!
Statements of simple values: when one is read back from its text.
-/

set_option autoImplicit false
set_option relaxedAutoImplicit false

namespace RowStamp.Sql

/-- An INSERT or an UPDATE of simple values. -/
inductive SimpleStatement where
  | insert (stmt : SimpleInsert)
  | update (stmt : SimpleUpdate)

namespace SimpleStatement

def statement : SimpleStatement → Statement
  | insert stmt => .insert stmt.statement
  | update stmt => .update stmt.statement

def WellFormed (d : Dialect) : SimpleStatement → Prop
  | insert stmt => stmt.WellFormed d
  | update stmt => stmt.WellFormed d

/-- All parts are simple, but for the columns without quotes. -/
def Framed (d : Dialect) : SimpleStatement → Prop
  | insert stmt => stmt.Framed d
  | update stmt => stmt.Framed d

def legible (d : Dialect) : SimpleStatement → Bool
  | insert stmt => stmt.legible d
  | update stmt => stmt.legible d

def survives (d : Dialect) : SimpleStatement → Bool
  | insert stmt => stmt.survives d
  | update stmt => stmt.survives d

def closes (d : Dialect) : SimpleStatement → Bool
  | insert stmt => stmt.closes d
  | update stmt => stmt.closes d

/-- What is read of the text, where all parts are read up to their closing quotes. -/
def readBack (d : Dialect) : SimpleStatement → SimpleStatement
  | insert stmt => insert (stmt.readBack d)
  | update stmt => update (stmt.readBack d)

variable {d : Dialect} {stmt : SimpleStatement}

private theorem WellFormed.framed (wellFormed : stmt.WellFormed d) : stmt.Framed d := by
  cases stmt with
  | insert stmt => exact SimpleInsert.WellFormed.framed wellFormed
  | update stmt => exact SimpleUpdate.WellFormed.framed wellFormed

private theorem WellFormed.legible (wellFormed : stmt.WellFormed d) : stmt.legible d = true := by
  cases stmt with
  | insert stmt => exact SimpleInsert.WellFormed.legible wellFormed
  | update stmt => exact SimpleUpdate.WellFormed.legible wellFormed

theorem Framed.survives_iff (framed : stmt.Framed d) :
    stmt.survives d = true ↔
      stmt.closes d = true ∧ (stmt.readBack d).statement = stmt.statement := by
  cases stmt with
  | insert stmt =>
    have fine := SimpleInsert.Framed.survives_iff framed
    simpa [survives, closes, readBack, statement] using fine
  | update stmt =>
    have fine := SimpleUpdate.Framed.survives_iff framed
    simpa [survives, closes, readBack, statement] using fine

theorem WellFormed.survives_iff (wellFormed : stmt.WellFormed d) :
    stmt.survives d = true ↔
      stmt.closes d = true ∧ (stmt.readBack d).statement = stmt.statement :=
  wellFormed.framed.survives_iff

private theorem parse_text (framed : stmt.Framed d) (legible : stmt.legible d = true)
    (closed : stmt.closes d = true) :
    Statement.parse d stmt.statement.text = .ok (stmt.readBack d).statement := by
  cases stmt with
  | insert stmt => exact SimpleInsert.parse_text framed legible closed
  | update stmt => exact SimpleUpdate.parse_text framed legible closed

/-- A statement is read back from its text exactly where its columns are legible and all of its
parts survive.  In MySQL a part may be read past its closing quote and the rest out of step, where
this is not known. -/
theorem Framed.parse_text_iff (framed : stmt.Framed d)
    (known : d ≠ .mySql ∨ stmt.legible d = true ∧ stmt.closes d = true) :
    Statement.parse d stmt.statement.text = .ok stmt.statement ↔
      stmt.survives d = true ∧ stmt.legible d = true := by
  constructor
  · intro back
    rcases known with other | ⟨legible, closed⟩
    · cases stmt with
      | insert stmt => exact SimpleInsert.survives_of_parse_text other framed back
      | update stmt => exact SimpleUpdate.survives_of_parse_text other framed back
    · rw [parse_text framed legible closed] at back
      exact ⟨framed.survives_iff.mpr ⟨closed, Except.ok.inj back⟩, legible⟩
  · rintro ⟨fine, legible⟩
    obtain ⟨closed, same⟩ := framed.survives_iff.mp fine
    rw [parse_text framed legible closed, same]

theorem parse_text_iff (wellFormed : stmt.WellFormed d)
    (known : d ≠ .mySql ∨ stmt.closes d = true) :
    Statement.parse d stmt.statement.text = .ok stmt.statement ↔ stmt.survives d = true := by
  have read := wellFormed.framed.parse_text_iff (known.imp_right fun closed =>
    ⟨wellFormed.legible, closed⟩)
  rw [read, wellFormed.legible]
  exact and_iff_left rfl

end SimpleStatement

end RowStamp.Sql
