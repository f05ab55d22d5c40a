import RowStamp.Proofs.Binding.Columns
import RowStamp.Proofs.Phases

/-!
The bindings of a statement over both phases.  The prepare phase overwrites placeholders by their
place, the bind phase removes mappings by their property; the mappings that remain are those of
the placeholders that remain where both choose the same ones.  For an INSERT whose audit columns
are bound to audit properties they do; for an UPDATE they do unless a placeholder that remains is
bound to a column that is named like an audit column.
-/

set_option autoImplicit false
set_option relaxedAutoImplicit false

namespace RowStamp

open Sql (Expr Ident Statement baseName)
open Stamp (exprMarks kept rowMarks unmarked)

/-! ### Filters and marks -/

section Filters

variable {α : Type} {p : α → Bool} {marks : List Bool} {xs : List α}

private theorem filter_eq_filter_kept
    (agree : List.Forall₂ (fun mark x => mark = true → p x = true) marks xs) :
    xs.filter (!p ·) = (kept marks xs).filter (!p ·) := by
  induction agree with
  | nil => rfl
  | @cons mark x marks xs first rest ih =>
    cases mark with
    | true => simp [first rfl, ih]
    | false => simp [List.filter_cons, ih]

private theorem filter_eq_kept_iff
    (agree : List.Forall₂ (fun mark x => mark = true → p x = true) marks xs) :
    xs.filter (!p ·) = kept marks xs ↔ ∀ x ∈ kept marks xs, p x = false := by
  rw [filter_eq_filter_kept agree, List.filter_eq_self]
  simp

private theorem length_filter_eq_iff
    (agree : List.Forall₂ (fun mark x => mark = true → p x = true) marks xs) :
    (xs.filter (!p ·)).length = (kept marks xs).length ↔ ∀ x ∈ kept marks xs, p x = false := by
  rw [filter_eq_filter_kept agree, List.length_filter_eq_length_iff]
  simp

end Filters

/-! ### INSERT -/

/-- The mappings of a stamped INSERT stay those of its placeholders: where exactly the mappings of
overwritten placeholders bind audit columns, the bind phase removes exactly these. -/
theorem insert_bindings_stay_aligned {config : AuditConfig} {sql : String} {time : Timestamp}
    {stmt : Sql.Insert} {stamped : Statement} {mappings : List ParameterMapping}
    (parsed : parseStatement config.dialect sql = .ok (.insert stmt))
    (done : Stamp.stampStatement config .insert time (.insert stmt) = .ok (.stamped stamped))
    (once : Stamp.DeclaredOnce config.columns stmt.columns)
    (bound : mappings.map config.columns.binds = Stamp.insertMarks config.columns stmt)
    (reads : parseStatement config.dialect stamped.text = .ok stamped) :
    (config.prepareAt .insert sql time).result = .ok (.rewritten stamped.text) ∧
      ∃ left, left = kept (Stamp.insertMarks config.columns stmt) mappings ∧
        (config.reconcile .insert ⟨stamped.text, mappings⟩).result =
          .ok ((Stamp.insertMarks config.columns stmt).count true, ⟨stamped.text, left⟩) ∧
        left.length = stamped.placeholders.length ∧
        stamped.placeholders.zip left =
          kept (Stamp.insertMarks config.columns stmt)
            ((Statement.insert stmt).placeholders.zip mappings) := by
  have audited := Stamp.audited_stamped done
  obtain ⟨-, inserted, ok, rfl⟩ := (Stamp.stampStatement_insert_iff stmt).mp done
  obtain ⟨front, list, back, shape, -⟩ := Stamp.stampable_of_insert ok
  have marks : (Stamp.insertMarks config.columns stmt).length = _ := shape.length_insertMarks
  have placeholders := Stamp.insert_placeholders ok once
  have remaining : config.columns.remaining mappings =
      kept (Stamp.insertMarks config.columns stmt) mappings := by
    rw [AuditColumns.remaining, Stamp.filter_eq_kept, bound]
  have removed : config.columns.removedCount mappings =
      (Stamp.insertMarks config.columns stmt).count true := by
    rw [← bound, List.count_eq_countP, List.countP_map, AuditColumns.removedCount]
    congr 1
    funext mapping
    simp
  have given : (Stamp.insertMarks config.columns stmt).length = mappings.length := by
    rw [← bound, List.length_map]
  refine ⟨congrArg Logged.result (AuditConfig.prepareAt_of_stamped parsed done), _, rfl, ?_, ?_, ?_⟩
  · rw [AuditConfig.reconcile_of_audited mappings reads audited, remaining, removed]
  · rw [placeholders, Stamp.length_kept _ _ given, Stamp.length_kept _ _ marks]
  · rw [placeholders, Stamp.kept_zip]

def boundRows : Sql.Insert :=
  Sql.plainInsert ["gmt_modified", "a", "gmt_create"]
    [[.placeholder "?", .placeholder "?",
        .nested (.binary (.placeholder "?") "+" (.placeholder "?"))],
      [.literal .null, .placeholder "?", .placeholder "?"]]

def stampedRows : Sql.Insert :=
  Sql.plainInsert ["gmt_modified", "a", "gmt_create"]
    [[Timestamp.plain.expr, .placeholder "?", Timestamp.plain.expr],
      [Timestamp.plain.expr, .placeholder "?", Timestamp.plain.expr]]

def boundRowsMappings : List ParameterMapping :=
  [⟨"gmtModified", none⟩, ⟨"a", some "INTEGER"⟩, ⟨"gmtCreate", none⟩, ⟨"gmtCreate", none⟩,
    ⟨"b", none⟩, ⟨"gmtCreate", none⟩]

theorem insert_bindings_stay_aligned_boundRows :
    parseStatement .generic (Statement.insert boundRows).text = .ok (.insert boundRows) ∧
      Stamp.DeclaredOnce AuditConfig.standard.columns boundRows.columns ∧
      boundRowsMappings.map AuditConfig.standard.columns.binds =
        Stamp.insertMarks AuditConfig.standard.columns boundRows ∧
      parseStatement .generic (Statement.insert stampedRows).text = .ok (.insert stampedRows) ∧
      (AuditConfig.standard.prepareAt .insert (Statement.insert boundRows).text .plain).result =
        .ok (.rewritten (Statement.insert stampedRows).text) ∧
      (AuditConfig.standard.reconcile .insert
          ⟨(Statement.insert stampedRows).text, boundRowsMappings⟩).result =
        .ok (4, ⟨(Statement.insert stampedRows).text,
          [⟨"a", some "INTEGER"⟩, ⟨"b", none⟩]⟩) := by
  have parsed : parseStatement .generic (Statement.insert boundRows).text =
      .ok (.insert boundRows) := by decide +kernel
  have done : Stamp.stampStatement .standard .insert .plain (.insert boundRows) =
      .ok (.stamped (.insert stampedRows)) := by decide +kernel
  have once : Stamp.DeclaredOnce AuditConfig.standard.columns boundRows.columns := by
    decide +kernel
  have bound : boundRowsMappings.map AuditConfig.standard.columns.binds =
      Stamp.insertMarks AuditConfig.standard.columns boundRows := by decide +kernel
  have reads : parseStatement .generic (Statement.insert stampedRows).text =
      .ok (.insert stampedRows) := by decide +kernel
  have marks : Stamp.insertMarks AuditConfig.standard.columns boundRows =
      [true, false, true, true, false, true] := by decide +kernel
  obtain ⟨prepared, left, rfl, reconciled, -⟩ :=
    @insert_bindings_stay_aligned .standard _ _ _ _ _ parsed done once bound reads
  rw [marks] at reconciled
  exact ⟨parsed, once, bound, reads, prepared, reconciled⟩

/-! ### UPDATE -/

/-- A marked placeholder belongs to the column, or to none. -/
def MarksColumn (column : String) (marks : List Bool) (columns : List (Option String)) : Prop :=
  List.Forall₂ (fun mark owner => mark = true → owner = none ∨ owner = some column) marks columns

section MarksColumn

variable {column : String}

private theorem MarksColumn.append {marks more : List Bool} {owners others : List (Option String)}
    (first : MarksColumn column marks owners) (second : MarksColumn column more others) :
    MarksColumn column (marks ++ more) (owners ++ others) :=
  List.rel_append first second

private theorem marksColumn_of_length {marks : List Bool} {owners : List (Option String)}
    (free : ∀ mark ∈ marks, mark = false) (same : marks.length = owners.length) :
    MarksColumn column marks owners := by
  rw [MarksColumn, List.forall₂_iff_zip]
  refine ⟨same, fun member marked => ?_⟩
  have unmarked := free _ (List.of_mem_zip member).1
  simp [unmarked] at marked

private theorem eq_false_of_mem_unmarked {es : List Expr} {mark : Bool}
    (member : mark ∈ unmarked es) :
    mark = false := by
  simp only [Stamp.unmarked, exprMarks, List.mem_flatMap, List.mem_map] at member
  obtain ⟨e, -, text, -, rfl⟩ := member
  rfl

private theorem marksColumn_unmarked (es : List Expr) {owners : List (Option String)}
    (same : owners.length = (es.flatMap Expr.placeholders).length) :
    MarksColumn column (unmarked es) owners :=
  marksColumn_of_length (fun _ member => eq_false_of_mem_unmarked member) (by simp [same])

@[simp] theorem length_noColumns (es : List Expr) :
    (Sql.noColumns es).length = (es.flatMap Expr.placeholders).length := List.length_map _

private theorem length_valueColumns (name : List Ident) (value : Expr) :
    (Sql.valueColumns name value).length = value.placeholders.length := by
  unfold Sql.valueColumns
  split <;> simp

private theorem marksColumn_valueColumns {mark : Bool} {name : List Ident} (value : Expr)
    (named : mark = true → baseName name = some column) :
    MarksColumn column (exprMarks mark value) (Sql.valueColumns name value) := by
  rw [MarksColumn, List.forall₂_iff_zip]
  refine ⟨by rw [Stamp.length_exprMarks, length_valueColumns], ?_⟩
  intro other owner member marked
  obtain ⟨inMarks, inColumns⟩ := List.of_mem_zip member
  obtain ⟨text, -, rfl⟩ := List.mem_map.mp inMarks
  unfold Sql.valueColumns at inColumns
  split at inColumns
  · exact .inr ((List.mem_singleton.mp inColumns).trans (named marked))
  · obtain ⟨text, -, rfl⟩ := List.mem_map.mp inColumns
    exact .inl rfl

private theorem marksColumn_rowMarks {flags : List Bool} {names : List (List Ident)}
    (named : List.Forall₂ (fun flag name => flag = true → baseName name = some column)
      flags names) (values : List Expr) (same : values.length = names.length) :
    MarksColumn column (rowMarks flags values)
      (names.zipWith Sql.valueColumns values).flatten := by
  induction named generalizing values with
  | nil => exact List.Forall₂.nil
  | @cons flag name flags names first rest ih =>
    cases values with
    | nil => simp at same
    | cons value values =>
      exact (marksColumn_valueColumns value first).append (ih values (Nat.succ.inj same))

private theorem tupleFlags_named (names : List (List Ident)) :
    List.Forall₂ (fun flag name => flag = true → baseName name = some column)
      (Stamp.tupleFlags column names) names := by
  rw [List.forall₂_iff_get]
  refine ⟨Stamp.length_tupleFlags column names, ?_⟩
  intro i inFlags inNames flagged
  have found : Stamp.lastName? column names = some i := by
    simpa [Stamp.tupleFlags] using flagged
  have named := Stamp.baseName_of_lastName? found
  rwa [List.getElem?_eq_getElem inNames] at named

private theorem length_columns (assignment : Sql.Assignment) :
    assignment.columns.length = assignment.value.placeholders.length := by
  have flattened (names : List (List Ident)) (values : List Expr)
      (same : values.length = names.length) :
      (names.zipWith Sql.valueColumns values).flatten.length =
        (values.flatMap Expr.placeholders).length := by
    induction names generalizing values with
    | nil =>
      obtain rfl := List.length_eq_zero_iff.mp same
      rfl
    | cons name names ih =>
      cases values with
      | nil => simp at same
      | cons value values =>
        simpa [length_valueColumns] using ih values (Nat.succ.inj same)
  unfold Sql.Assignment.columns
  split
  · exact length_valueColumns _ _
  · rename_i names values target value
    split
    · rename_i same
      rw [flattened names values same, value, Sql.Expr.placeholders_tuple]
    · simp [value]
  · simp

private theorem marksColumn_slotMarks {time : Timestamp} {given stamped : Sql.Assignment}
    (named : Stamp.assigns column given.target = true)
    (ok : Stamp.overwrite column time given = .ok stamped) :
    MarksColumn column (Stamp.slotMarks column given) given.columns := by
  rcases Stamp.overwrite_cases ok with ⟨name, target, -⟩ | ⟨names, values, target, value, same, -⟩
  · simp only [Stamp.slotMarks, Sql.Assignment.columns, target]
    exact marksColumn_valueColumns _ fun _ => by simpa [Stamp.assigns, target] using named
  · simp only [Stamp.slotMarks, Sql.Assignment.columns, target, value, same, if_true]
    exact marksColumn_rowMarks (tupleFlags_named names) values same

private theorem length_flatMap_columns (list : List Sql.Assignment) :
    (list.flatMap Sql.Assignment.columns).length =
      ((list.map Sql.Assignment.value).flatMap Expr.placeholders).length := by
  rw [List.flatMap_map, List.length_flatMap, List.length_flatMap]
  exact congrArg List.sum (List.map_congr_left fun a _ => length_columns a)

private theorem marksColumn_listMarks {time : Timestamp} {list stamped : List Sql.Assignment}
    (ok : Stamp.assignments column time list = .ok stamped) :
    MarksColumn column (Stamp.listMarks column list) (list.flatMap Sql.Assignment.columns) := by
  rcases Stamp.assignments_cases ok with
    ⟨unassigned, -⟩ | ⟨before, last, _, after, rfl, named, later, replaced, -⟩
  · rw [Stamp.listMarks_of_unassigned unassigned]
    exact marksColumn_unmarked _ (length_flatMap_columns list)
  · rw [Stamp.listMarks_of_split before named later, List.flatMap_append, List.flatMap_cons]
    exact (marksColumn_unmarked _ (length_flatMap_columns before)).append
      ((marksColumn_slotMarks named replaced).append
        (marksColumn_unmarked _ (length_flatMap_columns after)))

private theorem marksColumn_updateMarks {columns : AuditColumns} {time : Timestamp}
    {stmt stamped : Sql.Update} (ok : Stamp.update columns time stmt = .ok stamped) :
    MarksColumn columns.update (Stamp.updateMarks columns stmt) stmt.placeholderColumns := by
  obtain ⟨list, done, -⟩ := Stamp.update_eq_ok_iff.mp ok
  have condition : (stmt.selection.toList.flatMap Expr.comparedColumns).length =
      (stmt.selection.toList.flatMap Expr.placeholders).length := by
    cases stmt.selection <;> simp [Expr.length_comparedColumns]
  have none (es : List Expr) : MarksColumn columns.update (unmarked es) (Sql.noColumns es) :=
    marksColumn_unmarked es (length_noColumns es)
  exact (((((((none _).append (none _)).append (marksColumn_listMarks done)).append
    (none _)).append (marksColumn_unmarked _ condition)).append (none _)).append (none _))

end MarksColumn

/-- The bindings of a stamped UPDATE in which every placeholder belongs to a column and is bound
to the column's property.  The mappings that remain are those of the placeholders that remain, and
are as many, exactly where no placeholder that remains belongs to a column whose property is an
audit property. -/
theorem update_bindings_aligned_iff {config : AuditConfig} {sql : String} {time : Timestamp}
    {stmt : Sql.Update} {stamped : Statement} {names : List String}
    {mappings : List ParameterMapping}
    (parsed : parseStatement config.dialect sql = .ok (.update stmt))
    (done : Stamp.stampStatement config .update time (.update stmt) = .ok (.stamped stamped))
    (owned : stmt.placeholderColumns = names.map some)
    (bound : mappings.map ParameterMapping.property = names.map Naming.camelCase)
    (reads : parseStatement config.dialect stamped.text = .ok stamped) :
    (config.prepareAt .update sql time).result = .ok (.rewritten stamped.text) ∧
      ∃ removed left,
        (config.reconcile .update ⟨stamped.text, mappings⟩).result =
          .ok (removed, ⟨stamped.text, left⟩) ∧
        ((left = kept (Stamp.updateMarks config.columns stmt) mappings ∧
            left.length = stamped.placeholders.length ∧
            stamped.placeholders.zip left =
              kept (Stamp.updateMarks config.columns stmt)
                ((Statement.update stmt).placeholders.zip mappings)) ↔
          ∀ name ∈ kept (Stamp.updateMarks config.columns stmt) names,
            config.columns.columnOf? (Naming.camelCase name) = none) ∧
        (left.length = stamped.placeholders.length ↔
          ∀ name ∈ kept (Stamp.updateMarks config.columns stmt) names,
            config.columns.columnOf? (Naming.camelCase name) = none) := by
  have audited := Stamp.audited_stamped done
  obtain ⟨-, updated, ok, rfl⟩ := (Stamp.stampStatement_update_iff stmt).mp done
  have placeholders := Stamp.update_placeholders ok
  have marks := Stamp.length_updateMarks ok
  set given := Stamp.updateMarks config.columns stmt with given_eq
  have width : mappings.length = names.length := by simpa using congrArg List.length bound
  have agree : List.Forall₂ (fun mark mapping => mark = true →
      config.columns.binds mapping = true) given mappings := by
    have owners := marksColumn_updateMarks ok
    rw [owned, ← given_eq, MarksColumn, List.forall₂_map_right_iff] at owners
    have properties : List.Forall₂ (fun mark property => mark = true →
        property = config.columns.updateProperty) given (names.map Naming.camelCase) := by
      rw [List.forall₂_map_right_iff]
      refine owners.imp fun mark name owner marked => ?_
      rcases owner marked with none | same
      · simp at none
      · rw [Option.some.inj same]
        rfl
    rw [← bound, List.forall₂_map_right_iff] at properties
    refine properties.imp fun mark mapping same marked => ?_
    rw [AuditColumns.binds, AuditColumns.columnOf?, same marked]
    split <;> simp
  have condition : (∀ mapping ∈ kept given mappings, config.columns.binds mapping = false) ↔
      ∀ name ∈ kept given names, config.columns.columnOf? (Naming.camelCase name) = none := by
    have properties : (kept given mappings).map ParameterMapping.property =
        (kept given names).map Naming.camelCase := by
      rw [← Stamp.kept_map, ← Stamp.kept_map, bound]
    calc (∀ mapping ∈ kept given mappings, config.columns.binds mapping = false)
        ↔ ∀ property ∈ (kept given mappings).map ParameterMapping.property,
            config.columns.columnOf? property = none := by simp [AuditColumns.binds]
      _ ↔ _ := by rw [properties, List.forall_mem_map]
  have lengths : (kept given mappings).length = (Statement.update updated).placeholders.length := by
    rw [placeholders, Stamp.length_kept _ _ agree.length_eq, Stamp.length_kept _ _ marks]
  refine ⟨congrArg Logged.result (AuditConfig.prepareAt_of_stamped parsed done), _,
    config.columns.remaining mappings,
    congrArg Logged.result (AuditConfig.reconcile_of_audited mappings reads audited), ?_, ?_⟩
  · rw [← condition, ← filter_eq_kept_iff agree]
    constructor
    · exact And.left
    · intro same
      refine ⟨same, (congrArg List.length same).trans lengths, ?_⟩
      rw [placeholders, Stamp.kept_zip]
      exact congrArg _ same
  · rw [← condition, ← length_filter_eq_iff agree, lengths]
    exact Iff.rfl

def boundUpdate : Sql.Update :=
  Sql.plainUpdate [("gmt_modified", .placeholder "?"), ("a", .placeholder "?")]
    (some (.binary (.name [.plain "id"]) "=" (.placeholder "?")))

def stampedUpdate : Sql.Update :=
  Sql.plainUpdate [("gmt_modified", Timestamp.plain.expr), ("a", .placeholder "?")]
    (some (.binary (.name [.plain "id"]) "=" (.placeholder "?")))

theorem update_bindings_aligned_iff_boundUpdate :
    parseStatement .generic (Statement.update boundUpdate).text = .ok (.update boundUpdate) ∧
      boundUpdate.placeholderColumns = ["gmt_modified", "a", "id"].map some ∧
      parseStatement .generic (Statement.update stampedUpdate).text =
        .ok (.update stampedUpdate) ∧
      (AuditConfig.standard.prepareAt .update (Statement.update boundUpdate).text .plain).result =
        .ok (.rewritten (Statement.update stampedUpdate).text) ∧
      ∃ removed left,
        (AuditConfig.standard.reconcile .update ⟨(Statement.update stampedUpdate).text,
            [⟨"gmtModified", none⟩, ⟨"a", none⟩, ⟨"id", some "BIGINT"⟩]⟩).result =
          .ok (removed, ⟨(Statement.update stampedUpdate).text, left⟩) ∧
        left = [⟨"a", none⟩, ⟨"id", some "BIGINT"⟩] := by
  have parsed : parseStatement .generic (Statement.update boundUpdate).text =
      .ok (.update boundUpdate) := by decide +kernel
  have done : Stamp.stampStatement .standard .update .plain (.update boundUpdate) =
      .ok (.stamped (.update stampedUpdate)) := by decide +kernel
  have owned : boundUpdate.placeholderColumns = ["gmt_modified", "a", "id"].map some := by
    decide +kernel
  have bound : ([⟨"gmtModified", none⟩, ⟨"a", none⟩, ⟨"id", some "BIGINT"⟩] :
      List ParameterMapping).map ParameterMapping.property =
        ["gmt_modified", "a", "id"].map Naming.camelCase := by decide +kernel
  have reads : parseStatement .generic (Statement.update stampedUpdate).text =
      .ok (.update stampedUpdate) := by decide +kernel
  have marks : Stamp.updateMarks AuditConfig.standard.columns boundUpdate =
      [true, false, false] := by decide +kernel
  have free : ∀ name ∈ kept [true, false, false] ["gmt_modified", "a", "id"],
      AuditConfig.standard.columns.columnOf? (Naming.camelCase name) = none := by decide +kernel
  obtain ⟨prepared, removed, left, reconciled, aligned, -⟩ :=
    @update_bindings_aligned_iff .standard _ _ _ _ _ _ parsed done owned bound reads
  rw [marks] at aligned
  exact ⟨parsed, owned, reads, prepared, removed, left, reconciled, (aligned.mpr free).1⟩

def createdUpdate : Sql.Update :=
  Sql.plainUpdate [("gmt_create", .placeholder "?"), ("a", .placeholder "?")] none

def stampedCreatedUpdate : Sql.Update :=
  Sql.plainUpdate [("gmt_create", .placeholder "?"), ("a", .placeholder "?"),
    ("gmt_modified", Timestamp.plain.expr)] none

/-- The creation time that an UPDATE assigns keeps its placeholder and loses its mapping, so that
the next parameter is bound in its place. -/
theorem update_create_binding_lost :
    parseStatement .generic (Statement.update createdUpdate).text = .ok (.update createdUpdate) ∧
      createdUpdate.placeholderColumns = ["gmt_create", "a"].map some ∧
      (AuditConfig.standard.prepareAt .update (Statement.update createdUpdate).text
          .plain).result =
        .ok (.rewritten (Statement.update stampedCreatedUpdate).text) ∧
      parseStatement .generic (Statement.update stampedCreatedUpdate).text =
        .ok (.update stampedCreatedUpdate) ∧
      (Statement.update stampedCreatedUpdate).placeholders = ["?", "?"] ∧
      (AuditConfig.standard.reconcile .update ⟨(Statement.update stampedCreatedUpdate).text,
          ["gmt_create", "a"].map fun name => ⟨Naming.camelCase name, none⟩⟩).result =
        .ok (1, ⟨(Statement.update stampedCreatedUpdate).text, [⟨"a", none⟩]⟩) := by
  refine ⟨?_, ?_, ?_, ?_, ?_, ?_⟩ <;> decide +kernel

end RowStamp
