import Mathlib.Tactic.Lemma
import TimeTable.Group.Key
import TimeTable.Proofs.Column.Rows
import TimeTable.Proofs.Places

/-!
# Equality of keys

The keys of rows are told apart exactly as values are: `Scalar.sameKey` decides equality of values, in
which a missing value is equal to itself and a floating-point number is its bit pattern, at every depth
of lists, and `DataType.sameCell` that of cells. So rows with equal keys are an equivalence.
-/

namespace TimeTable

lemma Binary64.bits_injective : Function.Injective bits := by
  rintro ⟨v⟩ ⟨w⟩ rfl
  rfl

mutual

/-- Equality of keys is equality of values. -/
lemma Scalar.sameKey_iff (v w : Scalar) : v.sameKey w = true ↔ v = w := by
  match v with
  | .list vs =>
    cases w with
    | list ws =>
      rw [sameKey, Scalar.list.injEq]
      exact Scalar.sameKeys_iff vs ws
    | _ => simp [sameKey]
  | .null | .boolean _ | .int64 _ | .float64 _ | .utf8 _ | .date _ | .datetime .. | .duration .. =>
    cases w <;> simp [sameKey, Binary64.bits_injective.eq_iff, and_assoc]

/-- Equality of lists of keys is equality of lists of values. -/
lemma Scalar.sameKeys_iff (vs ws : List Scalar) : Scalar.sameKeys vs ws = true ↔ vs = ws := by
  match vs, ws with
  | [], [] => simp [sameKeys]
  | [], _ :: _ | _ :: _, [] => simp [sameKeys]
  | v :: vs, w :: ws =>
    rw [sameKeys, Bool.and_eq_true, Scalar.sameKey_iff v w, Scalar.sameKeys_iff vs ws]
    exact List.cons_eq_cons.symm

end

/-- A cell of the null type holds no value. -/
lemma DataType.eq_of_null (x y : Option DataType.null.Cell) : x = y := by
  match x, y with
  | none, none => rfl
  | some v, _ | _, some v => exact v.elim

/-- Equality of cells as keys is equality of cells. -/
lemma DataType.sameCell_iff {dtype : DataType} {x y : Option dtype.Cell} :
    dtype.sameCell x y = true ↔ x = y := by
  cases dtype with
  | null => exact iff_of_true rfl (eq_of_null x y)
  | float64 =>
    rw [sameCell, beq_iff_eq, (Option.map_injective Binary64.bits_injective).eq_iff]
  | list inner =>
    match x, y with
    | none, none => exact iff_of_true rfl rfl
    | some vs, none | none, some vs => simp [sameCell]
    | some vs, some ws => rw [sameCell, Scalar.sameKeys_iff, Option.some.injEq]
  | _ => exact beq_iff_eq

/-- A key is equal in two rows if it has one value there. -/
lemma Column.sameKey_iff {key : Column} {a b : Nat} :
    key.sameKey a b = true ↔ key.get a = key.get b := by
  rw [sameKey, DataType.sameCell_iff]
  exact ⟨congrArg key.dtype.toScalarOrNull, cell_eq_of_get_eq⟩

/-- Two rows have equal keys if all their keys have equal values. -/
lemma Column.sameRow_iff {keys : List Column} {a b : Nat} :
    sameRow keys a b = true ↔ ∀ key ∈ keys, key.get a = key.get b := by
  simp only [sameRow, List.all_eq_true, sameKey_iff]

/-- A key being equal is an equivalence of rows. -/
lemma Column.sameKey_equivalence (key : Column) :
    Equivalence fun a b => key.sameKey a b = true where
  refl _ := sameKey_iff.mpr rfl
  symm h := sameKey_iff.mpr (sameKey_iff.mp h).symm
  trans h h' := sameKey_iff.mpr ((sameKey_iff.mp h).trans (sameKey_iff.mp h'))

/-- Having equal keys is an equivalence of rows. -/
lemma Column.sameRow_equivalence (keys : List Column) :
    Equivalence fun a b => sameRow keys a b = true where
  refl _ := sameRow_iff.mpr fun _ _ => rfl
  symm h := sameRow_iff.mpr fun key hkey => (sameRow_iff.mp h key hkey).symm
  trans h h' := sameRow_iff.mpr fun key hkey =>
    (sameRow_iff.mp h key hkey).trans (sameRow_iff.mp h' key hkey)

/-- Rows that are taken have the keys that they had before. -/
lemma Column.sameRow_take {keys : List Column} {rows : List Nat} {a b : Nat} (ha : a < rows.length)
    (hb : b < rows.length) :
    sameRow (keys.map (·.take rows)) a b = sameRow keys (rows.getD a 0) (rows.getD b 0) := by
  rw [Bool.eq_iff_iff, sameRow_iff, sameRow_iff, List.forall_mem_map]
  simp only [get_take (getElem?_eq_some_getD ha 0), get_take (getElem?_eq_some_getD hb 0)]

/-- Rows with equal keys feed the same to a hash, so they have one hash. -/
lemma Column.rowHash_congr {keys : List Column} {a b : Nat}
    (h : ∀ key ∈ keys, key.get a = key.get b) : rowHash keys a = rowHash keys b := by
  have hwrites : rowWrites keys a = rowWrites keys b := by
    rw [rowWrites, rowWrites]
    apply List.flatMap_congr
    intro key hkey
    rw [keyWrites, keyWrites, cell_eq_of_get_eq (h key hkey)]
  rw [rowHash, rowHash, hwrites]

end TimeTable
