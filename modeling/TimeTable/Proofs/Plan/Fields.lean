import TimeTable.Proofs.Plan.Aggregate
import TimeTable.Proofs.Plan.Grouping

/-!
# Names and types of results

The fields of a table are the names and types of its columns. They alone determine the type of the
column that an expression gives, and the fields of the table that an aggregation gives: no value, no
missing cell and no number of rows or groups has an influence on them.
-/

namespace TimeTable

variable {t full source out : Table} {c column : Column} {columns keys results : List Column}
  {e key : Expr} {aggs : List Expr} {index : GroupIndex}

def Column.field (c : Column) : String × DataType := (c.name, c.dtype)

/-- The names and types of the columns of a table. -/
def Table.fields (t : Table) : List (String × DataType) := t.columns.map Column.field

/-- The type of a name is that of the first column of the name. -/
lemma Column.lookup_map_field (name : String) (columns : List Column) :
    (columns.map field).lookup name = (columns.find? (·.name == name)).map dtype := by
  induction columns with
  | nil => rfl
  | cons c cs ih =>
    rw [List.map_cons, field, List.lookup_cons, List.find?_cons, BEq.comm (a := name)]
    cases c.name == name with
    | true => rfl
    | false => exact ih

lemma Table.schema_eq_lookup (t : Table) : t.schema = fun name => t.fields.lookup name := by
  funext name
  exact (Column.lookup_map_field name t.columns).symm

/-- Aggregations look a type up among the columns of the table, and then among the keys. -/
lemma Table.schema_withKeys_eq_lookup (hkeys : ∀ key ∈ keys, key.length = t.height) :
    (t.withKeys keys hkeys).schema = fun name => (t.fields ++ keys.map Column.field).lookup name := by
  funext name
  rw [schema, column?_withKeys, List.lookup_append, Column.lookup_map_field, Option.map_or, fields,
    Column.lookup_map_field]
  rfl

namespace Expr

/-- The type of the column of an expression on tables with the given fields. -/
def typeOf? (fields : List (String × DataType)) (e : Expr) : Option DataType :=
  e.type? fun name => fields.lookup name

/-- The name and type of the column of an expression. -/
def field? (fields : List (String × DataType)) (e : Expr) : Option (String × DataType) :=
  (e.typeOf? fields).map fun dtype => (e.outputName, dtype)

/-- The name and type of the column of an aggregation: single values, or lists. -/
def groupField? (fields : List (String × DataType)) (e : Expr) : Option (String × DataType) :=
  (e.typeOf? fields).map fun dtype => (e.outputName, if e.isScalar then dtype else .list dtype)

/-- The fields of the table of keys and aggregations. The aggregations see the keys behind the
columns of the table. -/
def aggregateFields? (fields : List (String × DataType)) (keys aggs : List Expr) :
    Option (List (String × DataType)) := do
  let keyFields ← keys.mapM (field? fields)
  let aggFields ← aggs.mapM (groupField? (fields ++ keyFields))
  some (keyFields ++ aggFields)

lemma typeOf?_of_evaluate (h : e.evaluate t = .ok c) : e.typeOf? t.fields = some c.dtype := by
  rw [typeOf?, ← Table.schema_eq_lookup]
  exact (evaluate_shaped h).type_eq

lemma field?_of_keyColumn (h : t.keyColumn key = .ok c) : key.field? t.fields = some c.field := by
  obtain ⟨hname, -, htype⟩ := Table.keyColumn_shaped h
  rw [field?, typeOf?, ← Table.schema_eq_lookup, htype, Column.field, hname]
  rfl

/-- An aggregation that can be evaluated on some rows has the field of the column of its values. -/
lemma groupField?_of_aggregates {fields : List (String × DataType)}
    (hfields : full.schema = fun name => fields.lookup name)
    (h : e.Aggregates full index column) {rows : List Nat} (hc : e.evaluate (full.take rows) = .ok c) :
    e.groupField? fields = some column.field := by
  have htype := (evaluate_shaped hc).type_eq
  rw [Table.schema_take, hfields] at htype
  rw [groupField?, typeOf?, htype, Column.field, h.name_eq, h.type_eq rows c hc]
  rfl

/-- The columns of an aggregation on the groups are assembled once they are there. -/
lemma exists_assemble_of_evaluate
    (hresults : List.Forall₂ (fun rows c => e.evaluate (source.take rows) = .ok c) index.groups
      results)
    (hempty : index.groups = [] → ∃ c, e.evaluate (source.take []) = .ok c) :
    ∃ column, e.assemble results source = .ok column := by
  have hsamples : ∀ rows ∈ index.samples, ∃ c, e.evaluate (source.take rows) = .ok c := by
    refine GroupIndex.forall_samples.mpr ⟨?_, hempty⟩
    intro rows hrows
    obtain ⟨c, -, hc⟩ := exists_mem_of_forall₂ hresults hrows
    exact ⟨c, hc⟩
  obtain ⟨column, hcolumn, -⟩ := exists_assemble_of_samples (fun _ => rfl) hresults hsamples
  exact ⟨column, hcolumn⟩

end Expr

lemma Column.exists_ofScalars_reduce {func : Reducer} {v : Scalar} (h : c.reduce func = .ok v) :
    ∃ d, ofScalars c.name (func.outputType c.dtype) [v] = .ok d := by
  obtain ⟨d, hd, -⟩ := exists_ofScalars_of_reduce h c.name
  exact ⟨d, hd⟩

namespace Table

lemma fields_of_aggregate (hkeys : ∀ key ∈ keys, key.length = t.height)
    (hgroups : ∀ group ∈ index.groups, group ≠ [])
    (h : t.aggregate index keys aggs = .ok out) :
    ∃ aggFields, aggs.mapM (Expr.groupField? (t.fields ++ keys.map Column.field)) = some aggFields ∧
      out.fields = keys.map Column.field ++ aggFields := by
  obtain ⟨columns, hout, haggregates⟩ := columns_of_aggregate hkeys h
  obtain ⟨-, hsamples, -⟩ := (exists_aggregate_iff hkeys hgroups).mp ⟨out, h⟩
  obtain ⟨rows, hrows⟩ := index.exists_sample
  refine ⟨columns.map Column.field, ?_, ?_⟩
  · rw [mapM_eq_some_iff, List.forall₂_map_right_iff]
    refine (forall₂_with_mem haggregates).imp fun e column h => ?_
    obtain ⟨c, hc⟩ := hsamples e h.1 rows hrows
    exact Expr.groupField?_of_aggregates (schema_withKeys_eq_lookup hkeys) h.2 hc
  · rw [fields, hout, List.map_append, List.map_map]
    rfl

end Table

lemma Plan.aggregateFields?_of_run {input : Plan} {keys : List Expr} (ht : input.run = .ok t)
    (h : (Plan.groupBy input keys (.agg aggs)).run = .ok out) :
    Expr.aggregateFields? t.fields keys aggs = some out.fields := by
  obtain ⟨_, hstep, t', ht', h⟩ := run_groupBy_eq_ok_iff.mp h
  obtain rfl := Except.ok.inj hstep
  obtain rfl := Except.ok.inj (ht.symm.trans ht')
  obtain ⟨columns, hcolumns, -, hout⟩ := Table.groupBy_eq_ok_iff.mp h
  have hlength := Table.length_of_keyColumns hcolumns
  -- Keys have their fields by their types alone, and the aggregations theirs by those of table and keys.
  have hkeyFields : keys.mapM (Expr.field? t.fields) = some (columns.map Column.field) := by
    rw [mapM_eq_some_iff, List.forall₂_map_right_iff]
    exact hcolumns.imp fun _ _ => Expr.field?_of_keyColumn
  obtain ⟨aggFields, haggFields, hfields⟩ := Table.fields_of_aggregate hlength
    (GroupIndex.classifies_ofKeys columns t.height).nonempty hout
  rw [Expr.aggregateFields?, hkeyFields, hfields]
  rw [Option.bind_eq_bind, Option.bind_some, haggFields]
  rfl

/-- The type of the column of an expression follows from the fields of the table alone, and so do the
fields of the table that a grouping with aggregations gives, with or without groups. Therefore the
columns that are made of single values do not fail: that of a reduction, whenever there is a value, and
that of an aggregation, whenever it has been evaluated on the groups or, without any, on no rows. -/
theorem Expr.statically_typed :
    (∀ (e : Expr) (t : Table) (c : Column), e.evaluate t = .ok c →
      e.typeOf? t.fields = some c.dtype) ∧
    (∀ (input : Plan) (keys aggs : List Expr) (t out : Table), input.run = .ok t →
      (Plan.groupBy input keys (.agg aggs)).run = .ok out →
        aggregateFields? t.fields keys aggs = some out.fields) ∧
    (∀ (func : Reducer) (c : Column) (v : Scalar), c.reduce func = .ok v →
      ∃ d, Column.ofScalars c.name (func.outputType c.dtype) [v] = .ok d) ∧
    ∀ (e : Expr) (source : Table) (index : GroupIndex) (results : List Column),
      List.Forall₂ (fun rows c => e.evaluate (source.take rows) = .ok c) index.groups results →
      (index.groups = [] → ∃ c, e.evaluate (source.take []) = .ok c) →
        ∃ column, e.assemble results source = .ok column := by
  refine ⟨?_, ?_, ?_, ?_⟩
  · exact fun e t c h => typeOf?_of_evaluate h
  · exact fun input keys aggs t out ht h => Plan.aggregateFields?_of_run ht h
  · exact fun func c v h => Column.exists_ofScalars_reduce h
  · exact fun e source index results hresults hempty =>
      exists_assemble_of_evaluate hresults hempty

/-- A table with a group whose numbers are all missing and a table without groups give the same fields,
and neither the greatest number nor the column of an aggregation fails on them. -/
theorem Expr.statically_typed_missing_and_empty :
    let big : Expr := .named (.compare (.col "n") .gt (.lit (.int64 1))) "big"
    let aggs : List Expr := [.reduce (.col "n") .max, big]
    ∃ missing empty : Table,
      missing.columns = [⟨"k", .utf8, [some "a", some "b"]⟩, ⟨"n", .int64, [some 2, none]⟩] ∧
        empty.columns = [⟨"k", .utf8, []⟩, ⟨"n", .int64, []⟩] ∧
        ∀ t ∈ [missing, empty], ∃ out n greatest column,
          (Plan.groupBy (.scan t) [.col "k"] (.agg aggs)).run = .ok out ∧
            out.fields = [("k", .utf8), ("n", .int64), ("big", .list .boolean)] ∧
            (Expr.col "n").evaluate t = .ok n ∧
            (Expr.col "n").typeOf? t.fields = some n.dtype ∧
            n.reduce .max = .ok greatest ∧
            (∃ d, Column.ofScalars n.name n.dtype [greatest] = .ok d) ∧
            big.assemble [] t = .ok column := by
  intro big aggs
  let missing : Table :=
    { columns := [⟨"k", .utf8, [some "a", some "b"]⟩, ⟨"n", .int64, [some 2, none]⟩]
      sameHeight := by simp [Column.SameHeight, Column.length]
      distinctNames := by simp [Column.DistinctNames] }
  let empty : Table :=
    { columns := [⟨"k", .utf8, []⟩, ⟨"n", .int64, []⟩]
      sameHeight := by simp [Column.SameHeight, Column.length]
      distinctNames := by simp [Column.DistinctNames] }
  obtain ⟨htype, hfields, hreduce, hassemble⟩ := Expr.statically_typed
  refine ⟨missing, empty, rfl, rfl, List.forall_mem_cons.mpr ⟨?_, List.forall_mem_singleton.mpr ?_⟩⟩
  · obtain ⟨out, hout⟩ : ∃ out, (Plan.groupBy (.scan missing) [.col "k"] (.agg aggs)).run = .ok out :=
      ⟨_, Plan.run_groupBy_eq_ok_iff.mpr ⟨.agg aggs, rfl, missing, rfl,
        Table.groupBy_eq_ok_iff.mpr ⟨_, .cons rfl .nil, List.cons_ne_nil _ _, rfl⟩⟩⟩
    have hout_fields := hfields (.scan missing) [.col "k"] aggs missing out rfl hout
    obtain ⟨column, hcolumn⟩ := hassemble big missing ⟨[], 2⟩ [] .nil fun _ => ⟨_, rfl⟩
    exact ⟨out, _, _, column, hout, (Option.some.inj hout_fields).symm, rfl,
      htype _ _ _ rfl, rfl, hreduce .max _ _ rfl, hcolumn⟩
  · obtain ⟨out, hout⟩ : ∃ out, (Plan.groupBy (.scan empty) [.col "k"] (.agg aggs)).run = .ok out :=
      ⟨_, Plan.run_groupBy_eq_ok_iff.mpr ⟨.agg aggs, rfl, empty, rfl,
        Table.groupBy_eq_ok_iff.mpr ⟨_, .cons rfl .nil, List.cons_ne_nil _ _, rfl⟩⟩⟩
    have hout_fields := hfields (.scan empty) [.col "k"] aggs empty out rfl hout
    obtain ⟨column, hcolumn⟩ := hassemble big empty ⟨[], 0⟩ [] .nil fun _ => ⟨_, rfl⟩
    exact ⟨out, _, _, column, hout, (Option.some.inj hout_fields).symm, rfl,
      htype _ _ _ rfl, rfl, hreduce .max _ _ rfl, hcolumn⟩
end TimeTable
