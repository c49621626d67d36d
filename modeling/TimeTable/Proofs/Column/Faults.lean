import TimeTable.Expr.Eval
import TimeTable.Proofs.Column.Pairwise
import TimeTable.Proofs.Column.Readings
import TimeTable.Proofs.Column.Reductions

namespace TimeTable

open Fault (OfValues)

lemma Zone.named_failsWith {zoned : Prop} (name : String) :
    FailsWith (OfValues zoned) (Zone.named name) := by
  rw [named]
  cases ofName? name with
  | some zone => exact .ok zone
  | none => exact .error (.inl rfl)

namespace Column

variable {l r c : Column} {n : Nat} {sl sr : Bool} {α β : Type} {zoned : Prop}

/-! ### Cells -/

lemma overCell_failsWith {f : α → Except Fault β} (hf : ∀ v, FailsWith (OfValues zoned) (f v))
    (cell : Option α) : FailsWith (OfValues zoned) (overCell f cell) := by
  cases cell with
  | none => exact .ok none
  | some v => exact (hf v).map some

lemma mapCells_failsWith {f : α → Except Fault β} (hf : ∀ v, FailsWith (OfValues zoned) (f v))
    (cells : List (Option α)) : FailsWith (OfValues zoned) (mapCells f cells) :=
  .mapM fun cell _ => overCell_failsWith hf cell

/-- A column made of cells each of which may fail. -/
lemma mapCells_bind_failsWith {f : α → Except Fault β} (hf : ∀ v, FailsWith (OfValues zoned) (f v))
    (cells : List (Option α)) (column : List (Option β) → Column) :
    FailsWith (OfValues zoned) (mapCells f cells >>= fun cells => .ok (column cells)) :=
  (mapCells_failsWith hf cells).bind fun cells _ => .ok (column cells)

lemma ofScalars_failsWith (name : String) (dtype : DataType) (values : List Scalar) :
    FailsWith (OfValues zoned) (ofScalars name dtype values) := by
  rw [ofScalars]
  generalize (if dtype = .null then Scalar.firstType values else dtype) = target
  refine FailsWith.bind (FailsWith.mapM fun v _ => ?_) fun cells _ => .ok _
  rw [cellOf]
  cases target.ofScalar? v with
  | some cell => exact .ok cell
  | none => exact .error (.inl rfl)

/-! ### Fields, counts and parts -/

/-- A column made by a step on readings, each of which may be lost. -/
lemma overReading_bind_failsWith {unit : TimeUnit} {zone : Option Zone} {f : DateTime → Except Fault β}
    (hf : ∀ reading, FailsWith (OfValues (DataType.datetime unit zone).IsZoned) (f reading))
    (cells : List (Option Int64)) (column : List (Option β) → Column) :
    FailsWith (OfValues (DataType.datetime unit zone).IsZoned)
      (cells.mapM (overReading unit zone f) >>= fun cells => .ok (column cells)) := by
  refine FailsWith.bind (.mapM fun cell _ => ?_) fun cells _ => .ok (column cells)
  exact overReading_failsWith hf fun v _ hlost fault hfault =>
    .inr ⟨hfault, DataType.isZoned_of_losesReading hlost⟩

lemma extract_failsWith (field : TemporalField) (c : Column) :
    FailsWith (OfValues c.dtype.IsZoned) (c.extract field) := by
  obtain ⟨name, dtype, cells⟩ := c
  cases dtype with
  | date =>
    rw [extract]
    split
    · exact .error (.inl rfl)
    · exact .ok _
  | datetime unit zone => exact overReading_bind_failsWith (fun reading => .ok _) cells _
  | _ => exact .error (.inl rfl)

lemma extractSecond_failsWith (c : Column) : FailsWith (OfValues c.dtype.IsZoned) c.extractSecond := by
  obtain ⟨name, dtype, cells⟩ := c
  cases dtype with
  | datetime unit zone => exact overReading_bind_failsWith (fun reading => .ok _) cells _
  | _ => exact .error (.inl rfl)

lemma epochOfTicks_failsWith (stored : TimeUnit) (unit : EpochUnit) (ticks : Int64) :
    FailsWith (OfValues zoned) (epochOfTicks stored ticks unit) := by
  cases unit with
  | ticks target =>
    rw [epochOfTicks]
    cases stored.rescale? ticks target with
    | some n => exact .ok n
    | none => exact .error (.inl rfl)
  | seconds => exact .ok _
  | days => exact .ok _

lemma epochOfDay_failsWith (unit : EpochUnit) (day : Int32) :
    FailsWith (OfValues zoned) (epochOfDay day unit) := by
  cases unit with
  | ticks target =>
    rw [epochOfDay]
    cases Word.int64? (day.toInt * 86400 * target.perSecond) with
    | some n => exact .ok n
    | none => exact .error (.inl rfl)
  | seconds => exact .ok _
  | days => exact .ok _

lemma epoch_failsWith (unit : EpochUnit) (c : Column) : FailsWith (OfValues zoned) (c.epoch unit) := by
  obtain ⟨name, dtype, cells⟩ := c
  cases dtype with
  | date => exact mapCells_bind_failsWith (epochOfDay_failsWith unit) cells _
  | datetime stored zone => exact mapCells_bind_failsWith (epochOfTicks_failsWith stored unit) cells _
  | _ => exact .error (.inl rfl)

lemma partOf_failsWith (part : DurationPart) (unit : TimeUnit) (ticks : Int64) :
    FailsWith (OfValues zoned) (partOf part unit ticks) := by
  rw [partOf]
  cases Word.int64? ((ticks.toInt * unit.nanos).tdiv part.nanos) with
  | some n => exact .ok n
  | none => exact .error (.inl rfl)

lemma durationPart_failsWith (part : DurationPart) (c : Column) :
    FailsWith (OfValues zoned) (c.durationPart part) := by
  obtain ⟨name, dtype, cells⟩ := c
  cases dtype with
  | duration unit => exact mapCells_bind_failsWith (partOf_failsWith part unit) cells _
  | _ => exact .error (.inl rfl)

/-! ### Units and zones -/

lemma withTimeUnit_failsWith (unit : TimeUnit) (c : Column) :
    FailsWith (OfValues zoned) (c.withTimeUnit unit) := by
  obtain ⟨name, dtype, cells⟩ := c
  cases dtype with
  | datetime stored zone => exact .ok _
  | duration stored => exact .ok _
  | _ => exact .error (.inl rfl)

lemma rescale_failsWith (unit target : TimeUnit) (ticks : Int64) :
    FailsWith (OfValues zoned) (rescale unit target ticks) := by
  rw [rescale]
  cases unit.rescale? ticks target with
  | some n => exact .ok n
  | none => exact .error (.inl rfl)

lemma castTimeUnit_failsWith (target : TimeUnit) (c : Column) :
    FailsWith (OfValues zoned) (c.castTimeUnit target) := by
  obtain ⟨name, dtype, cells⟩ := c
  cases dtype with
  | datetime unit zone => exact mapCells_bind_failsWith (rescale_failsWith unit target) cells _
  | duration unit => exact mapCells_bind_failsWith (rescale_failsWith unit target) cells _
  | _ => exact .error (.inl rfl)

lemma withTimeZone_failsWith (zone : Zone) (c : Column) :
    FailsWith (OfValues zoned) (c.withTimeZone zone) := by
  obtain ⟨name, dtype, cells⟩ := c
  cases dtype with
  | datetime unit old => exact .ok _
  | _ => exact .error (.inl rfl)

lemma toUtc_failsWith (reading : DateTime) (zone : Option Zone) :
    FailsWith (·.kind = .invalidOperation) (reading.toUtc zone) := by
  cases zone with
  | none => exact .ok reading
  | some zone =>
    rw [DateTime.toUtc]
    cases zone.ofLocal? reading with
    | some utc => exact .ok utc
    | none => exact .error rfl

/-- A reading of a clock fails to have a count only for want of an instant or a tick. -/
lemma localizeReading_failsWith (zone : Option Zone) (unit : TimeUnit) (reading : DateTime) :
    FailsWith (·.kind = .invalidOperation) (reading.localize zone unit) := by
  refine (toUtc_failsWith reading zone).bind fun utc _ => ?_
  cases unit.ofDateTime? utc with
  | some ticks => exact .ok ticks
  | none => exact .error rfl

/-- The counts of readings in a zone, put into a column. -/
lemma reanchor_bind_failsWith (unit : TimeUnit) (old : Option Zone) (zone : Zone)
    (cells : List (Option Int64)) (column : List (Option Int64) → Column) :
    FailsWith (OfValues (DataType.datetime unit old).IsZoned)
      (reanchor unit old zone cells >>= fun cells => .ok (column cells)) :=
  overReading_bind_failsWith (fun reading => (localizeReading_failsWith (some zone) unit reading).mono
    fun _ => Fault.ofValues_of_invalidOperation) cells column

lemma castTimeZone_failsWith (zone : Zone) (c : Column) :
    FailsWith (OfValues c.dtype.IsZoned) (c.castTimeZone zone) := by
  obtain ⟨name, dtype, cells⟩ := c
  cases dtype with
  | datetime unit old => exact reanchor_bind_failsWith unit old zone cells _
  | _ => exact .error (.inl rfl)

lemma localize_failsWith (zone : Zone) (c : Column) :
    FailsWith (OfValues c.dtype.IsZoned) (c.localize zone) := by
  obtain ⟨name, dtype, cells⟩ := c
  cases dtype with
  | datetime unit old =>
    cases old with
    | none => exact reanchor_bind_failsWith unit none zone cells _
    | some old => exact .error (.inl rfl)
  | _ => exact .error (.inl rfl)

/-! ### Patterns and shifts -/

lemma writeBy_failsWith (pattern : String) (dtype : DataType) (items : List Pattern.Item)
    (subject : Pattern.Subject) : FailsWith (OfValues zoned) (writeBy pattern dtype items subject) := by
  rw [writeBy]
  cases Pattern.write? items subject with
  | some text => exact .ok _
  | none => exact .error (.inl rfl)

lemma strftime_failsWith (pattern : String) (c : Column) :
    FailsWith (OfValues zoned) (c.strftime pattern) := by
  obtain ⟨name, dtype, cells⟩ := c
  -- An unreadable pattern is refused before the column is looked at.
  cases hparse : Pattern.parse? pattern.toList with
  | none =>
    simp only [strftime, hparse]
    exact .error (.inl rfl)
  | some items =>
    cases dtype with
    | date =>
      simp only [strftime, hparse]
      exact mapCells_bind_failsWith (fun day => writeBy_failsWith pattern _ items _) _ _
    | datetime unit zone =>
      simp only [strftime, hparse]
      exact mapCells_bind_failsWith (fun t => writeBy_failsWith pattern _ items _) _ _
    | _ =>
      simp only [strftime, hparse]
      exact .error (.inl rfl)

lemma shiftTicks_failsWith (shift : Shift) (unit : TimeUnit) (zone : Option Zone) (ticks : Int64) :
    FailsWith (OfValues (DataType.datetime unit zone).IsZoned) (shiftTicks shift unit zone ticks) := by
  rw [shiftTicks]
  split
  · exact .ok _
  · refine FailsWith.bind ?_ fun read _ => ?_
    · exact (TimeUnit.localDateTime?_failsWith unit zone ticks).mono fun fault h =>
        .inr ⟨h.1, DataType.isZoned_of_losesReading h.2⟩
    · cases read.bind shift.dateTime? with
      | none => exact .ok none
      | some reading =>
        refine FailsWith.bind ?_ fun utc _ => .ok _
        exact (toUtc_failsWith reading zone).mono fun _ => Fault.ofValues_of_invalidOperation

lemma offsetBy_failsWith (text : String) (c : Column) :
    FailsWith (OfValues c.dtype.IsZoned) (c.offsetBy text) := by
  obtain ⟨name, dtype, cells⟩ := c
  cases hread : Shift.read? text.toList with
  | none =>
    simp only [offsetBy, hread]
    exact .error (.inl rfl)
  | some shift =>
    cases dtype with
    | date =>
      simp only [offsetBy, hread]
      split
      · exact .error (.inl rfl)
      · exact .ok _
    | datetime unit zone =>
      simp only [offsetBy, hread]
      split
      · exact .error (.inl rfl)
      · exact mapCells_bind_failsWith (shiftTicks_failsWith shift unit zone) cells _
    | _ =>
      simp only [offsetBy, hread]
      exact .error (.inl rfl)

/-- Every temporal operation fails with a fault of values. -/
lemma apply_failsWith (op : TemporalOp) (c : Column) :
    FailsWith (OfValues c.dtype.IsZoned) (op.apply c) := by
  cases op with
  | field f => exact extract_failsWith f c
  | fractionalSecond => exact extractSecond_failsWith c
  | epoch unit => exact epoch_failsWith unit c
  | timestamp unit => exact epoch_failsWith (.ticks unit) c
  | part p => exact durationPart_failsWith p c
  | strftime pattern => exact strftime_failsWith pattern c
  | withTimeUnit unit => exact withTimeUnit_failsWith unit c
  | castTimeUnit unit => exact castTimeUnit_failsWith unit c
  | withTimeZone name =>
    exact (Zone.named_failsWith name).bind fun zone _ => withTimeZone_failsWith zone c
  | castTimeZone name =>
    exact (Zone.named_failsWith name).bind fun zone _ => castTimeZone_failsWith zone c
  | tzLocalize name =>
    exact (Zone.named_failsWith name).bind fun zone _ => localize_failsWith zone c
  | offsetBy text => exact offsetBy_failsWith text c

/-! ### Reductions -/

lemma reduce_failsWith (func : Reducer) (c : Column) : FailsWith (OfValues zoned) (c.reduce func) := by
  cases h : func.accepts c.dtype with
  | false =>
    rw [reduce_of_not_accepts h]
    exact .error (.inl rfl)
  | true =>
    rcases reduce_of_accepts h with ⟨v, hv⟩ | ⟨-, hoverflow⟩
    · rw [hv]
      exact .ok v
    · rw [hoverflow]
      exact .error (.inl rfl)

lemma reduced_failsWith (func : Reducer) (c : Column) : FailsWith (OfValues zoned) (c.reduced func) :=
  (reduce_failsWith func c).bind fun v _ => ofScalars_failsWith c.name _ [v]

/-! ### Pairs -/

lemma intCell_failsWith (op : Arithmetic) (v w : Scalar) : FailsWith (OfValues zoned) (intCell op v w) := by
  rw [intCell.eq_def]
  split
  · next a b =>
    cases Word.int64? (intResult op a.toInt b.toInt) with
    | some n => exact .ok _
    | none => exact .error (.inl rfl)
  · exact .ok none

section Pair

variable (hl : l.length = if sl then 1 else n) (hr : r.length = if sr then 1 else n)
include hl hr

lemma compare_failsWith (op : Comparison) : FailsWith (OfValues zoned) (l.compare op r) := by
  rw [compare]
  split
  · rw [broadcastPair_eq_ok hl hr]
    exact .ok _
  · exact .error (.inl rfl)

lemma arithmetic_failsWith (op : Arithmetic) : FailsWith (OfValues zoned) (l.arithmetic op r) := by
  rw [arithmetic]
  split
  · rw [broadcastPair_eq_ok hl hr, ok_bind]
    dsimp only
    split
    · exact (FailsWith.mapM fun p _ => intCell_failsWith op p.1 p.2).bind fun cells _ => .ok _
    · exact .ok _
  · exact .error (.inl rfl)

end Pair

end Column
end TimeTable
