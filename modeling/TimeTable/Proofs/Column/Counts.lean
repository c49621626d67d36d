import TimeTable.Column.Convert
import TimeTable.Proofs.Failure
import TimeTable.Proofs.Totals

/-!
# Counts of cells

Casts, parts of durations and counts since 1970 have in common that they count each cell of a column in a
unit. The count is an exact integer, and if it does not fit a word, the operation is invalid. So the exact
counts alone tell whether such an operation has a result, and what this is.
-/

namespace TimeTable

open Word

variable {α : Type}

/-- That a step, if it fails, is an invalid operation. -/
abbrev OnlyInvalid (x : Except Fault α) : Prop := FailsWith (·.kind = .invalidOperation) x

/-- That two steps come to the same: to one result, or both to an invalid operation. -/
inductive SameOutcome : Except Fault α → Except Fault α → Prop
  | ok (a : α) : SameOutcome (.ok a) (.ok a)
  | invalid {fault fault' : Fault} (h : fault.kind = .invalidOperation)
      (h' : fault'.kind = .invalidOperation) : SameOutcome (.error fault) (.error fault')

namespace SameOutcome

variable {x y : Except Fault α}

lemma of_eq_ok_iff (hx : OnlyInvalid x) (hy : OnlyInvalid y) (h : ∀ a, x = .ok a ↔ y = .ok a) :
    SameOutcome x y := by
  cases x with
  | ok a =>
    rw [(h a).mp rfl]
    exact .ok a
  | error fault =>
    cases y with
    | ok a => cases (h a).mpr rfl
    | error fault' => exact .invalid (hx fault rfl) (hy fault' rfl)

lemma eq_ok_iff (h : SameOutcome x y) (a : α) : x = .ok a ↔ y = .ok a := by
  cases h with
  | ok b => rfl
  | invalid h h' => simp

end SameOutcome

namespace Column

variable {f : α → Except Fault Int64} {exact : α → Int} {cells : List (Option α)}
  {outs outs' : List (Option Int64)}

/-- That cells are the exact counts of others, and missing where these are. -/
def AreCounts (exact : α → Int) (cells : List (Option α)) (outs : List (Option Int64)) : Prop :=
  List.Forall₂ (Option.Rel fun v w => w.toInt = exact v) cells outs

lemma exists_areCounts_iff :
    (∃ outs, AreCounts exact cells outs) ↔ ∀ v, some v ∈ cells → Fits 64 (exact v) := by
  constructor
  · rintro ⟨outs, h⟩ v hv
    obtain ⟨out, -, hcell⟩ := exists_mem_of_forall₂ h hv
    cases hcell with
    | some hw => exact hw ▸ fits_toInt _
  · intro h
    refine ⟨cells.map (Option.map fun v => Int64.ofInt (exact v)), ?_⟩
    rw [AreCounts, List.forall₂_map_right_iff, List.forall₂_same]
    intro cell hcell
    cases cell with
    | none => exact .none
    | some v => exact .some (h v hcell).toInt_ofInt

/-- That a function gives the exact count of each value that has one in a word, and is invalid on any
other. -/
structure Counts (f : α → Except Fault Int64) (exact : α → Int) : Prop where
  eq_ok_iff : ∀ v w, f v = .ok w ↔ w.toInt = exact v
  onlyInvalid : ∀ v, OnlyInvalid (f v)

lemma Counts.of_eq_elim (fault : α → Fault) (hkind : ∀ v, (fault v).kind = .invalidOperation)
    (h : ∀ v, f v = (int64? (exact v)).elim (.error (fault v)) .ok) : Counts f exact := by
  constructor
  · intro v w
    rw [h, ← int64?_eq_some_iff]
    cases int64? (exact v) <;> simp
  · intro v
    rw [h]
    cases int64? (exact v) with
    | none => exact .error (hkind v)
    | some w => exact .ok w

/-- A function whose values all fit words. -/
lemma Counts.of_eq_ofInt (hfits : ∀ v, Fits 64 (exact v)) (h : ∀ v, f v = .ok (Int64.ofInt (exact v))) :
    Counts f exact := by
  constructor
  · intro v w
    rw [h, Except.ok.injEq]
    constructor
    · rintro rfl
      exact (hfits v).toInt_ofInt
    · intro hw
      rw [← hw, Int64.ofInt_toInt]
  · intro v
    rw [h]
    exact .ok _

lemma Counts.mapCells_eq_ok_iff (h : Counts f exact) :
    mapCells f cells = .ok outs ↔ AreCounts exact cells outs := by
  have hcell : ∀ cell out, overCell f cell = .ok out ↔
      Option.Rel (fun v w => w.toInt = exact v) cell out := by
    intro cell out
    cases cell <;> cases out <;> simp [overCell, h.eq_ok_iff]
  rw [mapCells, mapM_eq_ok_iff]
  simp only [hcell, AreCounts]

/-- A column of counts holds exactly the counts of the cells. -/
lemma Counts.column_eq_ok_iff (h : Counts f exact) {column : List (Option Int64) → Column} {d : Column} :
    (mapCells f cells).map column = .ok d ↔ ∃ outs, AreCounts exact cells outs ∧ column outs = d := by
  simp only [map_eq_ok, h.mapCells_eq_ok_iff]

/-- There is a column of counts if they all fit. -/
lemma Counts.exists_column_iff (h : Counts f exact) {column : List (Option Int64) → Column} :
    (∃ d, (mapCells f cells).map column = .ok d) ↔ ∀ v, some v ∈ cells → Fits 64 (exact v) := by
  rw [← exists_areCounts_iff]
  simp only [h.column_eq_ok_iff]
  constructor
  · rintro ⟨d, outs, houts, -⟩
    exact ⟨outs, houts⟩
  · rintro ⟨outs, houts⟩
    exact ⟨column outs, outs, houts, rfl⟩

lemma Counts.column_onlyInvalid (h : Counts f exact) (cells : List (Option α))
    (column : List (Option Int64) → Column) : OnlyInvalid ((mapCells f cells).map column) := by
  refine FailsWith.map (.mapM fun cell _ => ?_) column
  cases cell with
  | none => exact .ok none
  | some v => exact (h.onlyInvalid v).map some

/-- Two functions with the same exact counts come to the same columns. -/
lemma Counts.sameOutcome {g : α → Except Fault Int64} (hf : Counts f exact) (hg : Counts g exact)
    (cells : List (Option α)) (column : List (Option Int64) → Column) :
    SameOutcome ((mapCells f cells).map column) ((mapCells g cells).map column) := by
  refine .of_eq_ok_iff (hf.column_onlyInvalid cells column) (hg.column_onlyInvalid cells column) ?_
  intro d
  rw [hf.column_eq_ok_iff, hg.column_eq_ok_iff]

namespace AreCounts

lemma exists_getElem? {i : Nat} {v : α} (h : AreCounts exact cells outs)
    (hv : cells[i]? = some (some v)) : ∃ w, outs[i]? = some (some w) ∧ w.toInt = exact v := by
  obtain ⟨out, hout, hcell⟩ := exists_getElem?_of_forall₂ h hv
  cases hcell with
  | some hw => exact ⟨_, hout, hw⟩

lemma toInt_eq {i : Nat} {v : α} {w : Int64} (h : AreCounts exact cells outs)
    (hv : cells[i]? = some (some v)) (hw : outs[i]? = some (some w)) : w.toInt = exact v := by
  obtain ⟨w', hw', hexact⟩ := h.exists_getElem? hv
  obtain rfl : w' = w := Option.some.inj (Option.some.inj (hw'.symm.trans hw))
  exact hexact

/-- What is counted from exact counts is counted from the cells. -/
lemma next_iff (next : Int → Int) (h : AreCounts exact cells outs) :
    AreCounts (fun w => next w.toInt) outs outs' ↔ AreCounts (fun v => next (exact v)) cells outs' := by
  have hcell : ∀ {cell out}, Option.Rel (fun v w => Int64.toInt w = exact v) cell out → ∀ out',
      Option.Rel (fun w x => Int64.toInt x = next (Int64.toInt w)) out out' ↔
        Option.Rel (fun v x => Int64.toInt x = next (exact v)) cell out' := by
    intro cell out hout out'
    cases hout with
    | none => cases out' <;> simp
    | some hw => cases out' <;> simp [hw]
  rw [AreCounts, AreCounts]
  induction h generalizing outs' with
  | nil => rw [List.forall₂_nil_left_iff, List.forall₂_nil_left_iff]
  | cons hout _ ih => simp only [List.forall₂_cons_left_iff, hcell hout, ih]

/-- Counts are counts of counts if these fit words. -/
lemma comp_iff (exact : α → Int) (next : Int → Int)
    (hfits : ∀ v, Fits 64 (next (exact v)) → Fits 64 (exact v)) :
    AreCounts (fun v => next (exact v)) cells outs' ↔
      ∃ outs, AreCounts exact cells outs ∧ AreCounts (fun w => next w.toInt) outs outs' := by
  constructor
  · intro h
    obtain ⟨outs, houts⟩ := exists_areCounts_iff.mpr fun v hv =>
      hfits v (exists_areCounts_iff.mp ⟨outs', h⟩ v hv)
    exact ⟨outs, houts, (next_iff next houts).mpr h⟩
  · rintro ⟨outs, h, h'⟩
    exact (next_iff next h).mp h'

/-- Cells are their own counts. -/
lemma refl (cells : List (Option Int64)) : AreCounts Int64.toInt cells cells := by
  rw [AreCounts, List.forall₂_same]
  intro cell _
  cases cell with
  | none => exact .none
  | some v => exact .some rfl

/-- Counts from which the cells can be counted again. -/
lemma back {exact : Int64 → Int} {cells : List (Option Int64)} (next : Int → Int)
    (h : AreCounts exact cells outs) (hback : ∀ v, next (exact v) = v.toInt) :
    AreCounts (fun w => next w.toInt) outs cells := by
  rw [next_iff next h]
  simp only [hback]
  exact refl cells

end AreCounts

end Column
end TimeTable
