import TimeTable.Proofs.Plan.Faults
import TimeTable.Proofs.Plan.Filter
import TimeTable.Proofs.Plan.PutColumns
import TimeTable.Proofs.Plan.Slices
import TimeTable.Proofs.Table.Sorting

/-!
# Crashes of plans

A plan crashes only at an instant in range whose reading on the clock of a zone is out of range. No step
makes zones by itself, so this can only happen if there is a zone in the table that the plan starts from,
or in one of its expressions.
-/

namespace TimeTable

variable {t u out : Table} {keys columns : List Column} {exprs aggs : List Expr} {c : Column} {e : Expr}
  {p : Expr} {index : GroupIndex} {zoned : Prop} {fault : Fault}

/-- That a plan starts from a table with a zone, or has an expression that names one. -/
def Plan.UsesZone : Plan → Prop
  | scan table => table.HasZone
  | select input exprs | withColumns input exprs => input.UsesZone ∨ ∃ e ∈ exprs, e.NamesZone
  | filter input predicate => input.UsesZone ∨ predicate.NamesZone
  | sort input _ _ => input.UsesZone
  | groupBy input keys action => input.UsesZone ∨ ∃ e ∈ keys ++ action.aggregations, e.NamesZone

/-! ### Zones of results -/

lemma Expr.namesZone_or_of_evaluate (hc : e.evaluate t = .ok c) (hzoned : c.dtype.IsZoned) :
    e.NamesZone ∨ t.HasZone :=
  namesZone_or_hasZone (evaluate_shaped hc).type_eq hzoned

namespace Table

lemma zoned_of_evaluateAll (h : t.evaluateAll exprs = .ok columns) (hc : c ∈ columns)
    (hzoned : c.dtype.IsZoned) : (∃ e ∈ exprs, e.NamesZone) ∨ t.HasZone := by
  obtain ⟨evaluated, hevaluated, hcolumns⟩ := bind_eq_ok.mp h
  obtain rfl := Except.ok.inj hcolumns
  obtain ⟨d, hd, rfl⟩ := List.mem_map.mp hc
  obtain ⟨e, he, hevaluate⟩ := exists_mem_of_forall₂_right (mapM_eq_ok_iff.mp hevaluated) hd
  rw [Column.dtype_broadcast] at hzoned
  exact (Expr.namesZone_or_of_evaluate hevaluate hzoned).imp_left fun hzone => ⟨e, he, hzone⟩

lemma hasZone_of_selectExprs (h : t.selectExprs exprs = .ok out) (hzone : out.HasZone) :
    (∃ e ∈ exprs, e.NamesZone) ∨ t.HasZone := by
  obtain ⟨columns, hcolumns, hout⟩ := bind_eq_ok.mp h
  obtain ⟨c, hc, hzoned⟩ := hzone
  exact zoned_of_evaluateAll hcolumns (ofColumns_eq_ok_iff.mp hout ▸ hc) hzoned

/-- A column of a table into which columns were put is one of them, or was there before. -/
lemma Puts.mem_or_mem (hputs : Puts columns t out) (hc : c ∈ out.columns) :
    c ∈ columns ∨ c ∈ t.columns := by
  have hfind := column?_eq_some_iff.mpr ⟨hc, rfl⟩
  rw [hputs.column?_eq, Option.or_eq_some_iff] at hfind
  rcases hfind with hput | ⟨-, hthere⟩
  · exact .inl (List.mem_reverse.mp (List.mem_of_find?_eq_some hput))
  · exact .inr (column?_eq_some hthere).1

lemma hasZone_of_withExprs (h : t.withExprs exprs = .ok out) (hzone : out.HasZone) :
    (∃ e ∈ exprs, e.NamesZone) ∨ t.HasZone := by
  obtain ⟨puts, hputs, hselected⟩ := puts_of_withExprs h
  obtain ⟨c, hc, hzoned⟩ := hzone
  rcases hputs.mem_or_mem hc with hc | hc
  · obtain ⟨e, he, d, hd, rfl⟩ := exists_mem_of_forall₂_right hselected hc
    have hdzoned : d.dtype.IsZoned := by
      split at hzoned
      · exact Column.dtype_take d _ ▸ hzoned
      · exact hzoned
    exact (Expr.namesZone_or_of_evaluate hd hdzoned).imp_left fun hzone => ⟨e, he, hzone⟩
  · exact .inr ⟨c, hc, hzoned⟩

lemma zonesReach_of_aggregate (hkeys : ∀ key ∈ keys, key.length = t.height)
    (hgroups : ∀ group ∈ index.groups, group ≠ [])
    (h : t.aggregate index keys aggs = .ok out) (hzone : out.HasZone) : t.ZonesReach keys aggs := by
  obtain ⟨columns, hcolumns, haggregates⟩ := columns_of_aggregate hkeys h
  obtain ⟨c, hc, hzoned⟩ := hzone
  rw [hcolumns] at hc
  rcases List.mem_append.mp hc with hc | hc
  · obtain ⟨key, hkey, rfl⟩ := List.mem_map.mp hc
    exact .inr (.inr ⟨key, hkey, Column.dtype_take key _ ▸ hzoned⟩)
  · obtain ⟨e, he, haggregate⟩ := exists_mem_of_forall₂_right haggregates hc
    -- Even without groups there are rows, namely none, on which the aggregation has its type.
    obtain ⟨rows, hrows⟩ := index.exists_sample
    obtain ⟨d, hd⟩ := ((exists_aggregate_iff hkeys hgroups).mp ⟨out, h⟩).2.1 e he rows hrows
    rw [haggregate.type_eq rows d hd] at hzoned
    split at hzoned
    · refine (Expr.namesZone_or_of_evaluate hd hzoned).imp (fun hzone => ⟨e, he, hzone⟩) fun hzone => ?_
      exact hasZone_of_withKeys hkeys (hasZone_of_take hzone)
    · exact absurd hzoned id

lemma zonesReach_of_sliceGroups {slice : GroupSlice} {m : Nat}
    (h : t.sliceGroups index keys slice m = .ok out) (hzone : out.HasZone) : t.ZonesReach keys [] := by
  obtain ⟨c, hc, hzoned⟩ := hzone
  rw [columns_sliceGroups h] at hc
  obtain ⟨d, hd, rfl⟩ := List.mem_map.mp hc
  rw [Column.dtype_take] at hzoned
  rcases List.mem_append.mp hd with hd | hd
  · exact .inr (.inr ⟨d, hd, hzoned⟩)
  · exact .inr (.inl ⟨d, (mem_others.mp hd).1, hzoned⟩)

lemma hasZone_of_groupBy {step : GroupStep} (h : t.groupBy exprs step = .ok out) (hzone : out.HasZone) :
    (∃ e ∈ exprs ++ step.aggregations, e.NamesZone) ∨ t.HasZone := by
  obtain ⟨keys, hkeys, -, hout⟩ := groupBy_eq_ok_iff.mp h
  refine zonesReach_of_keyColumns hkeys ?_
  cases step with
  | agg aggs =>
    exact zonesReach_of_aggregate (length_of_keyColumns hkeys)
      (GroupIndex.classifies_ofKeys keys t.height).nonempty hout hzone
  | slice slice m => exact zonesReach_of_sliceGroups hout hzone

end Table

/-- The table that a plan gives has a zone only if the plan uses one. -/
lemma Plan.usesZone_of_run {plan : Plan} (h : plan.run = .ok out) (hzone : out.HasZone) :
    plan.UsesZone := by
  -- Each step finds a zone in its table or is given one by an expression of its own.
  induction plan generalizing out with
  | scan table =>
    obtain rfl := Except.ok.inj h
    exact hzone
  | select input exprs ih =>
    obtain ⟨t, ht, hout⟩ := bind_eq_ok.mp h
    exact (Table.hasZone_of_selectExprs hout hzone).symm.imp_left (ih ht)
  | withColumns input exprs ih =>
    obtain ⟨t, ht, hout⟩ := bind_eq_ok.mp h
    exact (Table.hasZone_of_withExprs hout hzone).symm.imp_left (ih ht)
  | filter input predicate ih =>
    obtain ⟨t, ht, hout⟩ := run_filter_eq_ok_iff.mp h
    obtain ⟨c, -, -, rfl⟩ := Table.filter_eq_ok_iff.mp hout
    exact .inl (ih ht (Table.hasZone_of_take hzone))
  | sort input names descending ih =>
    obtain ⟨t, ht, hout⟩ := bind_eq_ok.mp h
    obtain ⟨keys, -, rfl⟩ := Table.sort_eq_ok_iff.mp hout
    exact ih ht (Table.hasZone_of_take hzone)
  | groupBy input keys action ih =>
    obtain ⟨step, hstep, t, ht, hout⟩ := run_groupBy_eq_ok_iff.mp h
    rw [UsesZone, ← GroupAction.aggregations_step hstep]
    exact (Table.hasZone_of_groupBy hout hzone).symm.imp_left (ih ht)

/-! ### Faults of plans -/

/-- That a fault is one of values, or of columns that do not fit together. -/
def Fault.OfPlans (zoned : Prop) (fault : Fault) : Prop :=
  fault.OfNames zoned ∨ fault.kind = .shapeMismatch

open Fault (OfPlans)

lemma Fault.OfPlans.of_crash (h : fault.OfPlans zoned) (hcrash : fault.kind = .crash) :
    fault.OfReading ∧ zoned := by
  rcases h with ((h | h) | h) | h
  · rw [hcrash] at h
    exact absurd h Bool.false_ne_true
  · exact h
  · exact nomatch hcrash.symm.trans h
  · exact nomatch hcrash.symm.trans h

lemma Fault.OfPlans.mono {zoned' : Prop} (h : fault.OfPlans zoned) (hzoned : zoned → zoned') :
    fault.OfPlans zoned' :=
  Or.imp_left (fun h => h.mono hzoned) h

lemma FailsWith.ofPlans {α : Type} {x : Except Fault α} {zoned' : Prop}
    (h : FailsWith (Fault.OfValues zoned) x) (hzoned : zoned → zoned') : FailsWith (OfPlans zoned') x :=
  (h.ofNames hzoned).mono fun _ => .inl

namespace Table

lemma ofColumns_failsWith_ofPlans (columns : List Column) :
    FailsWith (OfPlans zoned) (ofColumns columns) := by
  rw [ofColumns]
  split
  · next fault hmisfit =>
    exact .error ((Column.kind_of_misfit? hmisfit).imp .inr And.left)
  · exact .ok _

lemma evaluateAll_failsWith (t : Table) (exprs : List Expr) :
    FailsWith (OfPlans ((∃ e ∈ exprs, e.NamesZone) ∨ t.HasZone)) (t.evaluateAll exprs) := by
  refine FailsWith.bind (.mapM fun e he => ?_) fun columns _ => .ok _
  exact (Expr.evaluate_failsWith e t).ofPlans (Or.imp_left fun hzone => ⟨e, he, hzone⟩)

lemma withColumns_failsWith (columns : List Column) (n : Nat) (t : Table) :
    FailsWith (OfPlans zoned) (columns.foldlM (fun u c => u.withColumn (c.broadcast n)) t) := by
  induction columns generalizing t with
  | nil => exact .ok t
  | cons c cs ih => exact (ofColumns_failsWith_ofPlans _).bind fun u _ => ih u

lemma filter_failsWith (t : Table) (p : Expr) :
    FailsWith (OfPlans (p.NamesZone ∨ t.HasZone)) (t.filter p) := by
  refine ((Expr.evaluate_failsWith p t).ofPlans id).bind fun c _ => ?_
  generalize c.broadcast t.height = mask
  obtain ⟨name, dtype, cells⟩ := mask
  cases dtype with
  | boolean | null => exact .ok _
  | _ => exact .error (.inl (.inl (.inl rfl)))

lemma sort_failsWith (t : Table) (names : List String) (descending : Bool) :
    FailsWith (OfPlans zoned) (t.sort names descending) :=
  ((FailsWith.mapM fun name _ => t.column_failsWith name).ofPlans id).bind fun _ _ => .ok _

end Table

namespace Plan

variable {input : Plan}

/-- A step on the table that a plan gives finds a zone there only if the plan uses one. -/
lemma failsWith_of_step {named : Prop} {f : Table → Except Fault Table}
    (hinput : FailsWith (OfPlans input.UsesZone) input.run)
    (hstep : ∀ t, FailsWith (OfPlans (named ∨ t.HasZone)) (f t)) :
    FailsWith (OfPlans (input.UsesZone ∨ named)) (input.run >>= f) := by
  refine (hinput.mono fun _ h => h.mono .inl).bind fun t ht => (hstep t).mono fun _ h => h.mono ?_
  rintro (h | h)
  · exact .inr h
  · exact .inl (usesZone_of_run ht h)

/-- A plan fails with a fault of values or of columns that do not fit together. It crashes only at a
reading, and only if it uses a zone. -/
lemma run_failsWith (plan : Plan) : FailsWith (OfPlans plan.UsesZone) plan.run := by
  induction plan with
  | scan table => exact .ok table
  | select input exprs ih =>
    refine failsWith_of_step ih fun t => ?_
    exact (t.evaluateAll_failsWith exprs).bind fun columns _ => Table.ofColumns_failsWith_ofPlans columns
  | withColumns input exprs ih =>
    refine failsWith_of_step ih fun t => ?_
    exact (t.evaluateAll_failsWith exprs).bind fun columns _ => Table.withColumns_failsWith columns t.height t
  | filter input predicate ih =>
    exact failsWith_of_step ih fun t => t.filter_failsWith predicate
  | sort input names descending ih =>
    have hsort : FailsWith (OfPlans (input.UsesZone ∨ False)) (sort input names descending).run :=
      failsWith_of_step ih fun t => t.sort_failsWith names descending
    exact hsort.mono fun _ h => h.mono (or_false _).mp
  | groupBy input keys action ih =>
    refine (action.step_failsWith.mono fun _ => .inl).bind fun step hstep => ?_
    split
    -- Grouping by nothing is refused before the input is run.
    · exact .error (.inl (.inl (.inl rfl)))
    · rw [UsesZone, ← GroupAction.aggregations_step hstep]
      exact failsWith_of_step ih fun t => (t.groupBy_failsWith keys step).mono fun _ => .inl

end Plan

/-! ### Crashes for fields -/

namespace Column

variable (name : String) (unit : TimeUnit) (zone : Option Zone) (cells : List (Option Int64))

lemma exists_extract_iff (field : TemporalField) :
    (∃ d, extract field ⟨name, .datetime unit zone, cells⟩ = .ok d) ↔
      ∀ v, some v ∈ cells → ¬unit.LosesReading zone v := by
  have hcells : (∃ d, extract field ⟨name, .datetime unit zone, cells⟩ = .ok d) ↔
      ∃ outs, cells.mapM (overReading unit zone fun reading =>
        .ok (Int64.ofInt (field.ofDateTime reading))) = .ok outs := by
    simp only [extract, bind_eq_ok, Except.ok.injEq]
    constructor
    · rintro ⟨d, outs, houts, -⟩
      exact ⟨outs, houts⟩
    · rintro ⟨outs, houts⟩
      exact ⟨_, outs, houts, rfl⟩
  rw [hcells, exists_mapM_eq_ok_iff]
  constructor
  · intro h v hv
    exact (exists_overReading_iff.mp (h _ hv) v rfl).1
  · rintro h cell hcell
    exact exists_overReading_iff.mpr fun v hv => ⟨h v (hv ▸ hcell), fun reading _ => ⟨_, rfl⟩⟩

/-- The fields of instants as a clock shows them are a crash if an instant loses its reading. -/
lemma extract_crashes_iff (field : TemporalField) :
    (∃ fault, extract field ⟨name, .datetime unit zone, cells⟩ = .error fault ∧ fault.kind = .crash) ↔
      ∃ v, some v ∈ cells ∧ unit.LosesReading zone v := by
  have hreading : FailsWith Fault.OfReading (extract field ⟨name, .datetime unit zone, cells⟩) := by
    refine FailsWith.bind (.mapM fun cell _ => ?_) fun outs _ => .ok _
    exact overReading_failsWith (fun reading => .ok _) fun _ _ _ fault hfault => hfault
  have hok := exists_extract_iff name unit zone cells field
  constructor
  · rintro ⟨fault, hfault, -⟩
    by_contra h
    rw [not_exists] at h
    obtain ⟨d, hd⟩ := hok.mpr fun v hv hlost => h v ⟨hv, hlost⟩
    exact nomatch hd.symm.trans hfault
  · rintro ⟨v, hv, hlost⟩
    cases hextract : extract field ⟨name, .datetime unit zone, cells⟩ with
    | ok d => exact absurd hlost (hok.mp ⟨d, hextract⟩ v hv)
    | error fault => exact ⟨fault, rfl, (hreading fault hextract).kind_eq⟩

end Column

/-- An expression by itself is selected unless it fails. -/
lemma Table.selectExprs_singleton_eq_error_iff :
    t.selectExprs [e] = .error fault ↔ e.evaluate t = .error fault := by
  cases hc : e.evaluate t with
  | error fault' =>
    have hselect : t.selectExprs [e] = .error fault' := by
      rw [selectExprs, evaluateAll, List.mapM_cons, hc]
      rfl
    rw [hselect, Except.error.injEq, Except.error.injEq]
  | ok c =>
    have hall : List.Forall₂ (fun e c => e.evaluate t = .ok c) [e] [c] := .cons hc .nil
    have hfit : Column.SameHeight [c.broadcast (Column.greatestHeight [c])] := by
      simp [Column.SameHeight]
    obtain ⟨out, hout⟩ := exists_ofColumns_iff.mpr ⟨hfit, List.nodup_singleton _⟩
    rw [selectExprs_eq hall, List.map_singleton, hout]
    simp

/-- A plan that takes a field of a column of instants crashes if one of them loses its reading. -/
lemma Plan.run_field_crashes_iff {input : Plan} {unit : TimeUnit} {zone : Option Zone} {name : String}
    {cells : List (Option Int64)} (hinput : input.run = .ok t)
    (hc : t.column? name = some ⟨name, .datetime unit zone, cells⟩) (field : TemporalField) :
    (∃ fault, (Plan.select input [.temporal (.col name) (.field field)]).run = .error fault ∧
      fault.kind = .crash) ↔ ∃ v, some v ∈ cells ∧ unit.LosesReading zone v := by
  have hevaluate : (Expr.temporal (.col name) (.field field)).evaluate t =
      (Column.extract field ⟨name, .datetime unit zone, cells⟩).map (·.rename name) := by
    rw [Expr.evaluate, Expr.eval_temporal, Expr.eval_col, Table.column_eq_ok_iff.mpr hc]
    rfl
  have hrun : ∀ fault, (Plan.select input [.temporal (.col name) (.field field)]).run = .error fault ↔
      Column.extract field ⟨name, .datetime unit zone, cells⟩ = .error fault := by
    intro fault
    rw [run, hinput, ok_bind, Table.selectExprs_singleton_eq_error_iff, hevaluate]
    cases Column.extract field ⟨name, .datetime unit zone, cells⟩ with
    | ok d => simp
    | error fault' => rfl
  simp only [hrun]
  exact Column.extract_crashes_iff name unit zone cells field

end TimeTable
