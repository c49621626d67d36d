import TimeTable.Proofs.Column.Unordered
import TimeTable.Proofs.Expr.Rows

namespace TimeTable.Expr

variable {e : Expr} {t : Table} {c : Column} {rows rows' : List Nat}

/-- Whether an expression is a reduction that ignores the order of rows, under any names. -/
def ignoresOrder : Expr → Bool
  | named input _ => input.ignoresOrder
  | reduce input func => input.isRowwise && func.ignoresOrder
  | _ => false

lemma eval_take_of_perm (he : e.ignoresOrder) (hrows : rows.Perm (List.range t.height))
    (h : e.eval t = .ok c) : e.eval (t.take rows) = .ok c := by
  induction e generalizing c with
  | named input name ih =>
    rw [eval_named] at h ⊢
    obtain ⟨d, hd, rfl⟩ := map_eq_ok.mp h
    rw [ih he hd, map_ok]
  | reduce input func =>
    rw [ignoresOrder, Bool.and_eq_true] at he
    rw [eval_reduce] at h ⊢
    obtain ⟨d, hd, hc⟩ := bind_eq_ok.mp h
    -- Single values stay, and columns are reduced without regard to the order of their rows.
    rw [eval_onRows he.1 (fun _ => Table.lt_of_mem_of_perm hrows) hd, ok_bind]
    have hlength := (eval_shaped hd).length_eq
    cases hscalar : input.isScalar with
    | true => exact hc
    | false =>
      rw [if_neg (by simp [hscalar])] at hlength
      rw [← hlength] at hrows
      exact (Column.reduced_take_of_perm hrows he.2).trans hc
  | _ => exact absurd he Bool.false_ne_true

lemma evaluate_take_of_perm (he : e.ignoresOrder) (hrows : rows.Perm (List.range t.height))
    (h : e.evaluate t = .ok c) : e.evaluate (t.take rows) = .ok c := by
  obtain ⟨d, hd, rfl⟩ := map_eq_ok.mp h
  rw [evaluate, eval_take_of_perm he hrows hd, map_ok]

/-- On rows of a table in another order the expression has the same column. -/
lemma evaluate_take_perm (he : e.ignoresOrder) (hrows : ∀ row ∈ rows, row < t.height)
    (hperm : rows'.Perm rows) (h : e.evaluate (t.take rows) = .ok c) :
    e.evaluate (t.take rows') = .ok c := by
  obtain ⟨places, hplaces, rfl⟩ := exists_places_of_perm hperm 0
  have hnumber : ∀ i ∈ places, rows[i]? = some (rows.getD i 0) := fun i hi =>
    getElem?_eq_some_getD (List.mem_range.mp (hplaces.subset hi)) 0
  rw [← Table.height_take_of_lt hrows] at hplaces
  rw [← Table.take_take hnumber]
  exact evaluate_take_of_perm he hplaces h

end TimeTable.Expr
