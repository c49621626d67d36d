import TimeTable.Column.Temporal
import TimeTable.Proofs.Column.Rows

/-!
# Operations cell by cell

A temporal operation looks at the type of a column first. Some types it refuses whatever the column
holds; on any other it works on each cell by itself, and gives cells of a type that follows from the
type of the column.
-/

namespace TimeTable

/-! ### Types -/

def DataType.inZone? (zone : Zone) : DataType → Option DataType
  | datetime unit _ => some (datetime unit (some zone))
  | _ => none

/-- The type of instants in a zone, made of instants without one. -/
def DataType.localized? (zone : Zone) : DataType → Option DataType
  | datetime unit none => some (datetime unit (some zone))
  | _ => none

/-- The type of dates and instants when they are written. -/
def DataType.written? : DataType → Option DataType
  | date | datetime .. => some utf8
  | _ => none

/-- The type of dates and instants when they are shifted: dates by whole days, instants by whole
ticks. -/
def DataType.shifted? (shift : Shift) : DataType → Option DataType
  | date => if shift.hasClock then none else some date
  | datetime unit zone => if shift.nanos % unit.nanos ≠ 0 then none else some (datetime unit zone)
  | _ => none

/-- The type of the column that a temporal operation makes of columns of a type. -/
def TemporalOp.outputType? : TemporalOp → DataType → Option DataType
  | field f, .date => if f.isClock then none else some .int64
  | field _, .datetime .. => some .int64
  | fractionalSecond, .datetime .. => some .float64
  | epoch _, .date | epoch _, .datetime .. => some .int64
  | timestamp _, .date | timestamp _, .datetime .. => some .int64
  | part _, .duration _ => some .int64
  | withTimeUnit unit, .datetime _ zone => some (.datetime unit zone)
  | castTimeUnit unit, .datetime _ zone => some (.datetime unit zone)
  | withTimeUnit unit, .duration _ => some (.duration unit)
  | castTimeUnit unit, .duration _ => some (.duration unit)
  | strftime pattern, dtype => (Pattern.parse? pattern.toList).bind fun _ => dtype.written?
  | withTimeZone name, dtype => (Zone.named name).toOption.bind dtype.inZone?
  | castTimeZone name, dtype => (Zone.named name).toOption.bind dtype.inZone?
  | tzLocalize name, dtype => (Zone.named name).toOption.bind dtype.localized?
  | offsetBy text, dtype => (Shift.read? text.toList).bind dtype.shifted?
  | _, _ => none

namespace Column

/-- How an operation acts on columns of a type: without a type of its results it fails whatever the
column holds, and otherwise it works cell by cell. -/
def Cellwise (op : Column → Except Fault Column) (dtype : DataType) : Option DataType → Prop
  | none => ∀ name cells, ∃ fault, op ⟨name, dtype, cells⟩ = .error fault
  | some target => ∃ f : Option dtype.Cell → Except Fault (Option target.Cell),
    ∀ name cells, op ⟨name, dtype, cells⟩ = (cells.mapM f).map (Column.mk name target)

variable {op : Column → Except Fault Column} {dtype target : DataType} {out : Option DataType}
  {c d : Column}

/-- An operation cell by cell that has a result has a type of its results, and gave each cell of it. -/
lemma Cellwise.exists_cells (h : Cellwise op c.dtype out) (hd : op c = .ok d) :
    ∃ (target : DataType) (f : Option c.dtype.Cell → Except Fault (Option target.Cell)) (cells : _),
      out = some target ∧
      (∀ name cells, op ⟨name, c.dtype, cells⟩ = (cells.mapM f).map (Column.mk name target)) ∧
      c.cells.mapM f = .ok cells ∧ d = ⟨c.name, target, cells⟩ := by
  cases out with
  | none =>
    obtain ⟨fault, hfault⟩ := h c.name c.cells
    exact nomatch hd.symm.trans hfault
  | some target =>
    obtain ⟨f, hf⟩ := h
    obtain ⟨cells, hcells, rfl⟩ := map_eq_ok.mp ((hf c.name c.cells).symm.trans hd)
    exact ⟨target, f, cells, rfl, hf, hcells, rfl⟩

/-- An operation cell by cell keeps the name and the height, and gives the type it promises. -/
lemma Cellwise.eq_ok (h : Cellwise op c.dtype out) (hd : op c = .ok d) :
    d.name = c.name ∧ d.length = c.length ∧ out = some d.dtype := by
  obtain ⟨target, f, cells, rfl, -, hcells, rfl⟩ := h.exists_cells hd
  exact ⟨rfl, (mapM_eq_ok_iff.mp hcells).length_eq.symm, rfl⟩

/-- An operation cell by cell gives on rows what it gives there on the whole column. -/
lemma Cellwise.take {rows : List Nat} (h : Cellwise op c.dtype out) (hd : op c = .ok d)
    (hrows : ∀ row ∈ rows, row < c.length) : op (c.take rows) = .ok (d.take rows) := by
  obtain ⟨target, f, cells, -, hf, hcells, rfl⟩ := h.exists_cells hd
  rw [cells_eq_map_cell, List.mapM_map] at hcells
  rw [take_eq c, hf, List.mapM_map, mapM_rows hcells hrows, map_ok, take_eq]
  rfl

lemma Cellwise.onRows {rows : List Nat} {single : Bool} {n : Nat} (h : Cellwise op c.dtype out)
    (hc : c.length = if single then 1 else n) (hrows : ∀ row ∈ rows, row < n) (hd : op c = .ok d) :
    op (c.onRows single rows) = .ok (d.onRows single rows) := by
  cases single with
  | true => exact hd
  | false =>
    have hlength : c.length = n := hc
    exact h.take hd fun row hrow => hlength ▸ hrows row hrow

lemma cellwise_of_map {f : Option dtype.Cell → Option target.Cell}
    (h : ∀ name cells, op ⟨name, dtype, cells⟩ = .ok ⟨name, target, cells.map f⟩) :
    Cellwise op dtype (some target) := by
  refine ⟨fun cell => .ok (f cell), ?_⟩
  intro name cells
  rw [h, mapM_ok, map_ok]

lemma cellwise_of_mapM {f : Option dtype.Cell → Except Fault (Option target.Cell)}
    (h : ∀ name cells, op ⟨name, dtype, cells⟩ = (cells.mapM f >>= fun cells' =>
      .ok ⟨name, target, cells'⟩)) :
    Cellwise op dtype (some target) :=
  ⟨f, fun name cells => (h name cells).trans (bind_ok_eq_map _ _)⟩

/-- A function that may fail on cells each of which is first changed by itself. -/
lemma mapCells_map {α β γ : Type} (f : β → Except Fault γ) (g : α → Option β) (cells : List α) :
    mapCells f (cells.map g) = cells.mapM fun cell => overCell f (g cell) :=
  List.mapM_map

/-! ### Fields, counts and parts -/

lemma extract_cellwise (field : TemporalField) (dtype : DataType) :
    Cellwise (extract field) dtype ((TemporalOp.field field).outputType? dtype) := by
  cases dtype with
  | date =>
    simp only [TemporalOp.outputType?]
    split
    · next h => exact fun name cells => ⟨_, if_pos h⟩
    · next h => exact cellwise_of_map fun name cells => if_neg h
  | datetime unit zone => exact cellwise_of_mapM fun name cells => rfl
  | _ => exact fun name cells => ⟨_, rfl⟩

lemma extractSecond_cellwise (dtype : DataType) :
    Cellwise extractSecond dtype (TemporalOp.fractionalSecond.outputType? dtype) := by
  cases dtype with
  | datetime unit zone => exact cellwise_of_mapM fun name cells => rfl
  | _ => exact fun name cells => ⟨_, rfl⟩

lemma epoch_cellwise (unit : EpochUnit) (dtype : DataType) :
    Cellwise (epoch unit) dtype ((TemporalOp.epoch unit).outputType? dtype) := by
  cases dtype with
  | date => exact cellwise_of_mapM fun name cells => rfl
  | datetime stored zone => exact cellwise_of_mapM fun name cells => rfl
  | _ => exact fun name cells => ⟨_, rfl⟩

lemma durationPart_cellwise (part : DurationPart) (dtype : DataType) :
    Cellwise (durationPart part) dtype ((TemporalOp.part part).outputType? dtype) := by
  cases dtype with
  | duration unit => exact cellwise_of_mapM fun name cells => rfl
  | _ => exact fun name cells => ⟨_, rfl⟩

/-! ### Units and zones -/

lemma withTimeUnit_cellwise (unit : TimeUnit) (dtype : DataType) :
    Cellwise (withTimeUnit unit) dtype ((TemporalOp.withTimeUnit unit).outputType? dtype) := by
  cases dtype with
  | datetime stored zone =>
    exact cellwise_of_map (f := id) fun name cells => by rw [List.map_id]; rfl
  | duration stored =>
    exact cellwise_of_map (f := id) fun name cells => by rw [List.map_id]; rfl
  | _ => exact fun name cells => ⟨_, rfl⟩

lemma castTimeUnit_cellwise (unit : TimeUnit) (dtype : DataType) :
    Cellwise (castTimeUnit unit) dtype ((TemporalOp.castTimeUnit unit).outputType? dtype) := by
  cases dtype with
  | datetime stored zone => exact cellwise_of_mapM fun name cells => rfl
  | duration stored => exact cellwise_of_mapM fun name cells => rfl
  | _ => exact fun name cells => ⟨_, rfl⟩

lemma withTimeZone_cellwise (zone : Zone) (dtype : DataType) :
    Cellwise (withTimeZone zone) dtype (dtype.inZone? zone) := by
  cases dtype with
  | datetime unit old => exact cellwise_of_map (f := id) fun name cells => by rw [List.map_id]; rfl
  | _ => exact fun name cells => ⟨_, rfl⟩

lemma castTimeZone_cellwise (zone : Zone) (dtype : DataType) :
    Cellwise (castTimeZone zone) dtype (dtype.inZone? zone) := by
  cases dtype with
  | datetime unit old => exact cellwise_of_mapM fun name cells => rfl
  | _ => exact fun name cells => ⟨_, rfl⟩

lemma localize_cellwise (zone : Zone) (dtype : DataType) :
    Cellwise (localize zone) dtype (dtype.localized? zone) := by
  cases dtype with
  | datetime unit old =>
    cases old with
    | none => exact cellwise_of_mapM fun name cells => rfl
    | some old => exact fun name cells => ⟨_, rfl⟩
  | _ => exact fun name cells => ⟨_, rfl⟩

/-- An operation in a zone, given by the name of the zone. -/
lemma named_cellwise {inZone : Zone → Column → Except Fault Column} {target? : Zone → Option DataType}
    (name : String) (h : ∀ zone, Cellwise (inZone zone) dtype (target? zone)) :
    Cellwise (fun c => Zone.named name >>= fun zone => inZone zone c) dtype
      ((Zone.named name).toOption.bind target?) := by
  cases hzone : Zone.named name with
  | error fault => exact fun _ _ => ⟨fault, rfl⟩
  | ok zone => exact h zone

/-! ### Patterns and shifts -/

lemma strftime_cellwise (pattern : String) (dtype : DataType) :
    Cellwise (strftime pattern) dtype ((TemporalOp.strftime pattern).outputType? dtype) := by
  -- Whether the pattern can be read is the same for all columns, so it is settled before their type.
  cases hparse : Pattern.parse? pattern.toList with
  | none =>
    rw [TemporalOp.outputType?, hparse]
    exact fun name cells => ⟨.invalidPattern pattern, by simp only [strftime, hparse]⟩
  | some items =>
    rw [TemporalOp.outputType?, hparse, Option.bind_some]
    cases dtype with
    | date =>
      exact cellwise_of_mapM fun name cells => by
        simp only [strftime, hparse, mapCells_map]
        rfl
    | datetime unit zone =>
      exact cellwise_of_mapM fun name cells => by
        simp only [strftime, hparse, mapCells_map]
        rfl
    | _ =>
      intro name cells
      simp only [strftime, hparse]
      exact ⟨_, rfl⟩

lemma shiftTicks_cellwise (shift : Shift) (unit : TimeUnit) (zone : Option Zone)
    (cells : List (Option Int64)) :
    (mapCells (shiftTicks shift unit zone) cells).map (List.map Option.join) =
      cells.mapM fun cell => (overCell (shiftTicks shift unit zone) cell).map Option.join :=
  map_mapM _ _ _

lemma offsetBy_cellwise (text : String) (dtype : DataType) :
    Cellwise (offsetBy text) dtype ((TemporalOp.offsetBy text).outputType? dtype) := by
  cases hread : Shift.read? text.toList with
  | none =>
    rw [TemporalOp.outputType?, hread]
    exact fun name cells => ⟨.invalidShift text, by simp only [offsetBy, hread]⟩
  | some shift =>
    rw [TemporalOp.outputType?, hread, Option.bind_some]
    cases dtype with
    | date =>
      rw [DataType.shifted?]
      split
      · next h =>
        exact fun name cells => ⟨.clockShift text name, by simp only [offsetBy, hread, if_pos h]⟩
      · next h =>
        exact cellwise_of_map fun name cells => by
          simp only [offsetBy, hread, if_neg h]
          rfl
    | datetime unit zone =>
      rw [DataType.shifted?]
      split
      · next h =>
        exact fun name cells => ⟨.fineShift text unit name, by simp only [offsetBy, hread, if_pos h]⟩
      · next h =>
        -- The shift is not one function of the cell from the start: what leaves the words is missing only
        -- in the end.
        refine ⟨fun cell => (overCell (shiftTicks shift unit zone) cell).map Option.join, ?_⟩
        intro name cells
        simp only [offsetBy, hread, if_neg h]
        rw [← shiftTicks_cellwise]
        cases mapCells (shiftTicks shift unit zone) cells with
        | error fault => rfl
        | ok shifted => rfl
    | _ =>
      intro name cells
      simp only [offsetBy, hread]
      exact ⟨_, rfl⟩

/-! ### All temporal operations -/

/-- Every temporal operation works cell by cell on the columns whose type it takes. -/
lemma apply_cellwise (op : TemporalOp) (dtype : DataType) :
    Cellwise (fun c => op.apply c) dtype (op.outputType? dtype) := by
  cases op with
  | field f => exact extract_cellwise f dtype
  | fractionalSecond => exact extractSecond_cellwise dtype
  | epoch unit => exact epoch_cellwise unit dtype
  | timestamp unit =>
    have h := epoch_cellwise (.ticks unit) dtype
    cases dtype <;> exact h
  | part p => exact durationPart_cellwise p dtype
  | strftime pattern => exact strftime_cellwise pattern dtype
  | withTimeUnit unit => exact withTimeUnit_cellwise unit dtype
  | castTimeUnit unit => exact castTimeUnit_cellwise unit dtype
  | withTimeZone name => exact named_cellwise name fun zone => withTimeZone_cellwise zone dtype
  | castTimeZone name => exact named_cellwise name fun zone => castTimeZone_cellwise zone dtype
  | tzLocalize name => exact named_cellwise name fun zone => localize_cellwise zone dtype
  | offsetBy text => exact offsetBy_cellwise text dtype

end Column
end TimeTable
