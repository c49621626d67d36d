import TimeTable.Proofs.Expr.Faults
import TimeTable.Proofs.Plan.Aggregate
import TimeTable.Proofs.Plan.Grouping

namespace TimeTable

open Fault (OfValues)

variable {t source : Table} {keys columns : List Column} {exprs aggs : List Expr} {index : GroupIndex}
  {seen : List String} {n : Nat} {zoned zoned' : Prop}

/-- That a fault is one of values, or of a name that two columns have. -/
def Fault.OfNames (zoned : Prop) (fault : Fault) : Prop :=
  fault.OfValues zoned ∨ fault.kind = .duplicateColumn

lemma Fault.OfNames.kind_ne {fault : Fault} (h : fault.OfNames zoned) {kind : Kind}
    (hkind : kind.isOfValues = false) (hcrash : kind ≠ .crash) (hname : kind ≠ .duplicateColumn) :
    fault.kind ≠ kind := by
  rcases h with h | h
  · exact h.kind_ne hkind hcrash
  · exact h ▸ hname.symm

open Fault (OfNames)

lemma Fault.OfNames.mono {fault : Fault} (h : fault.OfNames zoned) (hzoned : zoned → zoned') :
    fault.OfNames zoned' :=
  Or.imp_left (fun h => h.mono hzoned) h

lemma FailsWith.ofNames {α : Type} {x : Except Fault α} (h : FailsWith (OfValues zoned) x)
    (hzoned : zoned → zoned') : FailsWith (OfNames zoned') x :=
  h.mono fun _ hfault => .inl (hfault.mono hzoned)

/-- Columns do not fit together for a name that is there twice, or for one of another height. -/
lemma Column.kind_of_misfit? {fault : Fault} (h : misfit? n seen columns = some fault) :
    fault.kind = .duplicateColumn ∨ fault.kind = .shapeMismatch ∧ ∃ c ∈ columns, c.length ≠ n := by
  induction columns generalizing seen with
  | nil => cases h
  | cons c cs ih =>
    rw [misfit?] at h
    split at h
    · next hlength => exact .inr ⟨Option.some.inj h ▸ rfl, c, List.mem_cons_self, hlength⟩
    · split at h
      · exact .inl (Option.some.inj h ▸ rfl)
      · rcases ih h with hkind | ⟨hkind, d, hd, hlength⟩
        · exact .inl hkind
        · exact .inr ⟨hkind, d, List.mem_cons_of_mem c hd, hlength⟩

namespace Table

lemma ofColumns_failsWith (h : ∀ c ∈ columns, c.length = n) :
    FailsWith (OfNames zoned) (ofColumns columns) := by
  have hhead : ∀ c ∈ columns, c.length = (columns.head?.map Column.length).getD 0 := by
    intro c hc
    cases columns with
    | nil => exact absurd hc List.not_mem_nil
    | cons d ds => exact (h c hc).trans (h d List.mem_cons_self).symm
  rw [ofColumns]
  split
  · next fault hmisfit =>
    refine .error ((Column.kind_of_misfit? hmisfit).elim .inr ?_)
    rintro ⟨-, c, hc, hlength⟩
    exact absurd (hhead c hc) hlength
  · exact .ok _

lemma project_failsWith (hkeys : ∀ key ∈ keys, key.length = t.height) (aggs : List Expr) :
    FailsWith (OfNames zoned) (t.project keys aggs) := by
  rw [project_eq_select hkeys, select]
  refine FailsWith.bind ?_ fun columns hcolumns => ?_
  · exact (FailsWith.mapM fun name _ => (t.withKeys keys hkeys).column_failsWith name).ofNames id
  · exact ofColumns_failsWith (length_of_mapM_column hcolumns)

lemma hasZone_of_withKeys (hkeys : ∀ key ∈ keys, key.length = t.height)
    (h : (t.withKeys keys hkeys).HasZone) : t.HasZone ∨ ∃ key ∈ keys, key.dtype.IsZoned := by
  obtain ⟨c, hc, hzoned⟩ := h
  rcases List.mem_append.mp hc with hc | hc
  · exact .inl ⟨c, hc, hzoned⟩
  · exact .inr ⟨c, (Column.mem_of_mem_untaken hc).1, hzoned⟩

/-- What aggregations refer to has a zone only if the table or a key has. -/
lemma hasZone_of_project (hkeys : ∀ key ∈ keys, key.length = t.height)
    (hsource : t.project keys aggs = .ok source) (h : source.HasZone) :
    t.HasZone ∨ ∃ key ∈ keys, key.dtype.IsZoned := by
  obtain ⟨c, hc, hzoned⟩ := h
  rw [project_eq_select hkeys, select] at hsource
  obtain ⟨columns, hcolumns, hsource⟩ := bind_eq_ok.mp hsource
  rw [ofColumns_eq_ok_iff.mp hsource] at hc
  exact hasZone_of_withKeys hkeys ⟨c, mem_columns_of_mapM_column hcolumns c hc, hzoned⟩

/-- The ways for zones to get into an aggregation. -/
def ZonesReach (t : Table) (keys : List Column) (aggs : List Expr) : Prop :=
  (∃ e ∈ aggs, e.NamesZone) ∨ t.HasZone ∨ ∃ key ∈ keys, key.dtype.IsZoned

/-- A key has a zone only if its expression names one, or the table has one. -/
lemma zonesReach_of_keyColumns (hkeys : List.Forall₂ (fun key c => t.keyColumn key = .ok c) exprs keys)
    (h : t.ZonesReach keys aggs) : (∃ e ∈ exprs ++ aggs, e.NamesZone) ∨ t.HasZone := by
  rcases h with ⟨e, he, hzone⟩ | hzone | ⟨c, hc, hzoned⟩
  · exact .inl ⟨e, List.mem_append_right _ he, hzone⟩
  · exact .inr hzone
  · obtain ⟨key, hkey, hcolumn⟩ := exists_mem_of_forall₂_right hkeys hc
    exact (Expr.namesZone_or_hasZone (keyColumn_shaped hcolumn).2.2 hzoned).imp_left
      fun hzone => ⟨key, List.mem_append_left _ hkey, hzone⟩

lemma aggregate_failsWith (hkeys : ∀ key ∈ keys, key.length = t.height)
    (hgroups : ∀ group ∈ index.groups, group ≠ []) (aggs : List Expr) :
    FailsWith (OfNames (t.ZonesReach keys aggs)) (t.aggregate index keys aggs) := by
  refine (project_failsWith hkeys aggs).bind fun source hsource => ?_
  -- An aggregation sees zoned ticks where it names a zone itself or where the source has a zoned column.
  have hreach : ∀ e ∈ aggs, e.NamesZone ∨ source.HasZone → t.ZonesReach keys aggs := by
    intro e he
    exact Or.imp (fun hzone => ⟨e, he, hzone⟩) (hasZone_of_project hkeys hsource)
  refine FailsWith.bind ?_ fun perGroup hperGroup => FailsWith.bind ?_ fun columns hcolumns => ?_
  · refine FailsWith.mapM fun rows _ => FailsWith.mapM fun e he => ?_
    exact (Expr.evaluate_failsWith e (source.take rows)).ofNames fun hzone =>
      hreach e he (hzone.imp_right hasZone_of_take)
  · refine FailsWith.mapM fun p hp => ?_
    -- What is assembled at a place are the columns that the aggregation at this place gave.
    have hp := List.mem_zipIdx_iff_getElem?.mp hp
    have hresults := evaluate_groups hkeys hsource hperGroup hp
    refine (Expr.assemble_failsWith ?_ source).ofNames (hreach p.1 (List.mem_of_getElem? hp))
    intro c hc
    obtain ⟨rows, -, hrows⟩ := exists_mem_of_forall₂_right hresults hc
    exact ⟨_, hrows⟩
  · have haggregates := aggregates_of_assembleAll hkeys hsource hperGroup hcolumns
    exact ofColumns_failsWith fun c hc => length_of_mem_groups hgroups haggregates hc

lemma sliceGroups_failsWith (t : Table) (index : GroupIndex) (keys : List Column)
    (slice : GroupSlice) (m : Nat) : FailsWith (OfNames zoned) (t.sliceGroups index keys slice m) := by
  refine ofColumns_failsWith (n := (slice.selectRows index m).length) fun c hc => ?_
  obtain ⟨d, -, rfl⟩ := List.mem_map.mp hc
  exact Column.length_take d _

end Table

/-- The expressions that are evaluated on groups. -/
def GroupStep.aggregations : GroupStep → List Expr
  | agg aggregations => aggregations
  | slice _ _ => []

/-- The expressions that are to be evaluated on groups. -/
def GroupAction.aggregations : GroupAction → List Expr
  | agg aggregations => aggregations
  | slice _ _ => []

lemma GroupAction.aggregations_step {action : GroupAction} {step : GroupStep}
    (h : action.step = .ok step) : step.aggregations = action.aggregations := by
  cases action with
  | agg aggs => exact Except.ok.inj h ▸ rfl
  | slice slice n =>
    obtain ⟨m, -, rfl⟩ := map_eq_ok.mp h
    rfl

namespace Table

lemma groupStep_failsWith (hkeys : ∀ key ∈ keys, key.length = t.height) (step : GroupStep) :
    FailsWith (OfNames (t.ZonesReach keys step.aggregations)) (t.groupStep keys step) := by
  cases step with
  | agg aggs =>
    exact aggregate_failsWith hkeys (GroupIndex.classifies_ofKeys keys t.height).nonempty aggs
  | slice slice m => exact sliceGroups_failsWith t _ keys slice m

lemma groupBy_failsWith (t : Table) (exprs : List Expr) (step : GroupStep) :
    FailsWith (OfNames ((∃ e ∈ exprs ++ step.aggregations, e.NamesZone) ∨ t.HasZone))
      (t.groupBy exprs step) := by
  rw [groupBy_eq]
  refine FailsWith.bind ?_ fun keys hkeys => ?_
  · refine FailsWith.mapM fun key hkey => ?_
    exact ((Expr.evaluate_failsWith key t).map _).ofNames
      (Or.imp_left fun hzone => ⟨key, List.mem_append_left _ hkey, hzone⟩)
  · split
    · exact .error (.inl (.inl rfl))
    · have hkeys := mapM_eq_ok_iff.mp hkeys
      exact (groupStep_failsWith (length_of_keyColumns hkeys) step).mono fun fault h =>
        h.mono (zonesReach_of_keyColumns hkeys)

end Table

lemma GroupAction.step_failsWith (action : GroupAction) : FailsWith (OfNames zoned) action.step := by
  cases action with
  | agg aggs => exact .ok _
  | slice slice n =>
    refine FailsWith.map ?_ _
    rw [GroupSlice.checkLength]
    split
    · exact .error (.inl (.inl rfl))
    · exact .ok _

/-- A plan that groups what its input gives fails with a fault of values or of names. -/
lemma Plan.run_groupBy_failsWith {input : Plan} (h : input.run = .ok t) (exprs : List Expr)
    (action : GroupAction) :
    FailsWith (OfNames ((∃ e ∈ exprs ++ action.aggregations, e.NamesZone) ∨ t.HasZone))
      (Plan.groupBy input exprs action).run := by
  rw [run, h]
  refine (GroupAction.step_failsWith action).bind fun step hstep => ?_
  split
  · exact .error (.inl (.inl rfl))
  · exact GroupAction.aggregations_step hstep ▸ Table.groupBy_failsWith t exprs step

end TimeTable
