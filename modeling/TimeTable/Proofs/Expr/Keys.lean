import TimeTable.Proofs.Expr.Rows
import TimeTable.Proofs.Expr.Scope
import TimeTable.Proofs.Key

namespace TimeTable

variable {e : Expr} {t : Table} {c : Column} {keys : List Column} {rows rows' : List Nat}
  {a b row : Nat}

/-- The place of the first of some rows that has the keys of a row. -/
def Column.placeOfKeys (keys : List Column) (rows : List Nat) (row : Nat) : Nat :=
  rows.findIdx fun other => sameRow keys other row

lemma Column.placeOfKeys_spec (h : ∃ other ∈ rows, sameRow keys other row = true) :
    ∃ other, rows[placeOfKeys keys rows row]? = some other ∧ sameRow keys other row = true := by
  have hlt : placeOfKeys keys rows row < rows.length := List.findIdx_lt_length.mpr h
  exact ⟨_, List.getElem?_eq_getElem hlt, List.findIdx_getElem (w := hlt)⟩

namespace Expr

/-- That all columns of a table that an expression refers to are keys. -/
def RefersToKeys (e : Expr) (t : Table) (keys : List Column) : Prop :=
  ∀ name ∈ e.references, ∃ key ∈ keys, t.column? name = some key

variable (hkeys : e.RefersToKeys t keys)
include hkeys

/-- Row by row with equal keys, rows are alike to an expression of keys. -/
lemma RefersToKeys.evaluate_take_congr
    (h : List.Forall₂ (fun a b => Column.sameRow keys a b = true) rows rows') :
    e.evaluate (t.take rows) = e.evaluate (t.take rows') := by
  apply evaluate_congr
  intro name hname
  obtain ⟨key, hkey, hcolumn⟩ := hkeys name hname
  have hcells : rows'.map key.cell = rows.map key.cell :=
    map_eq_of_forall₂ h fun a b hsame =>
      Column.cell_eq_of_get_eq (Column.sameRow_iff.mp hsame key hkey).symm
  rw [Table.column?_take, Table.column?_take, hcolumn, Option.map_some, Option.map_some,
    Column.take_eq, Column.take_eq, hcells]

variable (hrowwise : e.isRowwise)
include hrowwise

/-- In rows with equal keys an expression of keys has one value. -/
lemma RefersToKeys.get_eq_get (hc : e.evaluate t = .ok c) (ha : a < t.height) (hb : b < t.height)
    (hsame : Column.sameRow keys a b = true) :
    c.get (Column.rowAt e.isScalar a) = c.get (Column.rowAt e.isScalar b) := by
  cases hscalar : e.isScalar with
  | true => rfl
  | false =>
    have hta := evaluate_onRows hrowwise (List.forall_mem_singleton.mpr ha) hc
    have htb := evaluate_onRows hrowwise (List.forall_mem_singleton.mpr hb) hc
    rw [hkeys.evaluate_take_congr (.cons hsame .nil), htb, hscalar] at hta
    have htake : c.take [b] = c.take [a] := Except.ok.inj hta
    calc c.get a = (c.take [a]).get 0 := (Column.get_take rfl).symm
      _ = (c.take [b]).get 0 := by rw [htake]
      _ = c.get b := Column.get_take rfl

/-- Where there is a column on rows with the keys of all rows, there is one on all rows. -/
lemma RefersToKeys.exists_evaluate (hrows : ∀ row ∈ rows, row < t.height)
    (hall : ∀ row < t.height, ∃ other ∈ rows, Column.sameRow keys other row = true)
    (hc : e.evaluate (t.take rows) = .ok c) :
    ∃ d, e.evaluate t = .ok d ∧ c = d.onRows e.isScalar rows := by
  -- Every row of the table has an equal key among the taken rows, and its place stands for the row.
  have hplace : ∀ row ∈ List.range t.height, ∃ other,
      rows[Column.placeOfKeys keys rows row]? = some other ∧
        Column.sameRow keys other row = true :=
    fun row hrow => Column.placeOfKeys_spec (hall row (List.mem_range.mp hrow))
  let places := (List.range t.height).map (Column.placeOfKeys keys rows)
  have hnumber : ∀ i ∈ places, rows[i]? = some (rows.getD i 0) := by
    intro i hi
    obtain ⟨row, hrow, rfl⟩ := List.mem_map.mp hi
    obtain ⟨other, hother, -⟩ := hplace row hrow
    rw [List.getD_eq_getElem?_getD, hother, Option.getD_some]
  have hlt : ∀ i ∈ places, i < (t.take rows).height := by
    intro i hi
    obtain ⟨row, hrow, -⟩ := List.mem_map.mp hi
    rw [Table.height_take (Table.columns_ne_nil (List.mem_range.mp hrow))]
    exact (List.getElem?_eq_some_iff.mp (hnumber i hi)).1
  -- The rows at these places have the keys of all rows, one by one.
  have hsame : List.Forall₂ (fun a b => Column.sameRow keys a b = true)
      (places.map (rows.getD · 0)) (List.range t.height) := by
    rw [List.map_map, List.forall₂_map_left_iff, List.forall₂_same]
    intro row hrow
    obtain ⟨other, hother, hsame⟩ := hplace row hrow
    rw [Function.comp_apply, List.getD_eq_getElem?_getD, hother, Option.getD_some]
    exact hsame
  have heval : e.evaluate t = .ok (c.onRows e.isScalar places) := by
    rw [← evaluate_onRows hrowwise hlt hc, Table.take_take hnumber,
      hkeys.evaluate_take_congr hsame, Table.take_range]
  refine ⟨_, heval, ?_⟩
  exact Except.ok.inj (hc.symm.trans (evaluate_onRows hrowwise hrows heval))

end Expr
end TimeTable
