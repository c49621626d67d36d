import Mathlib.Tactic.Lemma
import TimeTable.Column.Order
import TimeTable.Proofs.Column.Rows

namespace TimeTable

open Std

/-- A pattern is known by its place in the total order. -/
lemma Binary64.totalPlace_inj {x y : Binary64} (h : x.totalPlace = y.totalPlace) : x = y := by
  obtain ⟨bits⟩ := x
  obtain ⟨bits'⟩ := y
  have hlt := bits.toNat_lt
  have hlt' := bits'.toNat_lt
  have hbits : bits.toNat = bits'.toNat := by
    simp only [totalPlace, isNegative, magnitude, decide_eq_true_eq] at h
    split at h
    · split at h <;> omega
    · split at h <;> omega
  rw [UInt64.toNat_inj.mp hbits]

namespace DataType

def isList : DataType → Bool
  | list _ => true
  | _ => false

instance transCmp_compareCells (dtype : DataType) : TransCmp dtype.compareCells := by
  cases dtype with
  | null => exact { eq_swap := fun {v} => v.elim, isLE_trans := fun {v} => v.elim }
  | boolean => exact inferInstanceAs (TransCmp (compareOn Bool.toNat))
  | int64 => exact inferInstanceAs (TransCmp (compareOn Int64.toInt))
  | float64 => exact inferInstanceAs (TransCmp (compareOn Binary64.totalPlace))
  | utf8 => exact inferInstanceAs (TransCmp (compare (α := String)))
  | date => exact inferInstanceAs (TransCmp (compareOn Int32.toInt))
  | datetime => exact inferInstanceAs (TransCmp (compareOn Int64.toInt))
  | duration => exact inferInstanceAs (TransCmp (compareOn Int64.toInt))
  | list => exact inferInstanceAs (TransCmp (compareOn List.length))

/-- Values that are no lists are told apart by their order. -/
lemma eq_of_compareCells {dtype : DataType} (hlist : dtype.isList = false) {v w : dtype.Cell}
    (h : dtype.compareCells v w = .eq) : v = w := by
  cases dtype with
  | null => exact v.elim
  | boolean =>
    have hinj : ∀ v w : Bool, v.toNat = w.toNat → v = w := by decide
    exact hinj v w (LawfulEqOrd.eq_of_compare h)
  | int64 => exact Int64.toInt_inj.mp (LawfulEqOrd.eq_of_compare h)
  | float64 => exact Binary64.totalPlace_inj (LawfulEqOrd.eq_of_compare h)
  | utf8 => exact LawfulEqOrd.eq_of_compare h
  | date => exact Int32.toInt_inj.mp (LawfulEqOrd.eq_of_compare h)
  | datetime => exact Int64.toInt_inj.mp (LawfulEqOrd.eq_of_compare h)
  | duration => exact Int64.toInt_inj.mp (LawfulEqOrd.eq_of_compare h)
  | list => exact absurd hlist Bool.true_eq_false.mp

end DataType

section MissingCells

variable {α : Type} {order : α → α → Ordering}

instance transCmp_compareNullsLast [TransCmp order] : TransCmp (compareNullsLast order) where
  eq_swap {x y} := by
    cases x with
    | none => cases y <;> rfl
    | some v =>
      cases y with
      | none => rfl
      | some w =>
        have hswap : order v w = (order w v).swap := OrientedCmp.eq_swap
        exact hswap
  isLE_trans {x y z} hxy hyz := by
    cases x with
    | none =>
      cases y with
      | none => exact hyz
      | some w => exact nomatch hxy
    | some v =>
      cases z with
      | none => rfl
      | some u =>
        cases y with
        | none => exact nomatch hyz
        | some w =>
          have hle : (order v u).isLE := TransCmp.isLE_trans (b := w) hxy hyz
          exact hle

lemma eq_of_compareNullsLast (hinj : ∀ v w, order v w = .eq → v = w) {x y : Option α}
    (h : compareNullsLast order x y = .eq) : x = y := by
  cases x with
  | none =>
    cases y with
    | none => rfl
    | some w => exact nomatch h
  | some v =>
    cases y with
    | none => exact nomatch h
    | some w => rw [hinj v w h]

end MissingCells

namespace Column

variable {c : Column} {descending : Bool} {a b : Nat}

def directed (c : Column) (descending : Bool) (v w : c.dtype.Cell) : Ordering :=
  if descending then (c.dtype.compareCells v w).swap else c.dtype.compareCells v w

instance transCmp_directed (c : Column) (descending : Bool) : TransCmp (c.directed descending) := by
  cases descending with
  | false => exact c.dtype.transCmp_compareCells
  | true =>
    have hswap : c.directed true = fun v w => c.dtype.compareCells w v := by
      funext v w
      exact OrientedCmp.eq_swap.symm
    rw [hswap]
    infer_instance

lemma sortOrder_eq (c : Column) (descending : Bool) (a b : Nat) :
    c.sortOrder descending a b = compareNullsLast (c.directed descending) (c.cell a) (c.cell b) := rfl

instance transCmp_sortOrder (c : Column) (descending : Bool) : TransCmp (c.sortOrder descending) where
  eq_swap {a b} := by
    rw [sortOrder_eq, sortOrder_eq]
    exact OrientedCmp.eq_swap
  isLE_trans {a b d} hab hbd := by
    rw [sortOrder_eq] at hab hbd ⊢
    exact TransCmp.isLE_trans hab hbd

/-- In either direction values that are no lists are told apart by their order. -/
lemma eq_of_directed (hlist : c.dtype.isList = false) {v w : c.dtype.Cell}
    (h : c.directed descending v w = .eq) : v = w := by
  apply DataType.eq_of_compareCells hlist
  cases descending with
  | false => exact h
  | true => exact Ordering.swap_eq_eq.mp h

/-- Rows that are tied in a column without lists have one value. -/
lemma get_eq_of_sortOrder (hlist : c.dtype.isList = false) (h : c.sortOrder descending a b = .eq) :
    c.get a = c.get b := by
  rw [sortOrder_eq] at h
  rw [get, get, eq_of_compareNullsLast (fun v w => eq_of_directed hlist) h]

/-- Among rows that are taken the order is that of the rows they come from. -/
lemma sortOrder_take {rows : List Nat} {i j : Nat} (hi : rows[i]? = some a) (hj : rows[j]? = some b) :
    (c.take rows).sortOrder descending i j = c.sortOrder descending a b := by
  rw [sortOrder, sortOrder, cell_take hi, cell_take hj]
  rfl

end Column
end TimeTable
