import TimeTable.Proofs.Column.Pairwise
import TimeTable.Proofs.Failure
import TimeTable.Proofs.Totals

/-!
# Arithmetic on integers

A sum, a difference or a product of columns of integers has in each row the exact result, which is missing
where a value is, and the operation fails as soon as the exact result of some row does not fit a word. As
this is all that the result depends on, the columns of a sum or of a product can be exchanged.
-/

namespace TimeTable.Column

variable {l r c : Column} {op : Arithmetic} {v w u : Scalar} {row : Nat}

/-- The exact result of an operation on two values: missing if a value is, and else the word of the integer
that the operation gives on the integers. -/
inductive Exact (op : Arithmetic) : Scalar → Scalar → Scalar → Prop
  | left_null (w : Scalar) : Exact op .null w .null
  | right_null (v : Scalar) : Exact op v .null .null
  | int64 {a b n : Int64} (h : n.toInt = intResult op a.toInt b.toInt) :
      Exact op (.int64 a) (.int64 b) (.int64 n)

/-- The result of a sum or of a product is the same with the values exchanged. -/
lemma Exact.comm (hop : op = .add ∨ op = .mul) (h : Exact op v w u) : Exact op w v u := by
  cases h with
  | left_null w => exact .right_null w
  | right_null v => exact .left_null v
  | int64 h =>
    refine .int64 ?_
    rcases hop with rfl | rfl
    · exact h.trans (Int.add_comm _ _)
    · exact h.trans (Int.mul_comm _ _)

lemma exact_null_left : Exact op .null w u ↔ u = .null := by
  constructor
  · intro h
    cases h with
    | left_null => rfl
    | right_null => rfl
  · rintro rfl
    exact .left_null w

lemma exact_null_right : Exact op v .null u ↔ u = .null := by
  constructor
  · intro h
    cases h with
    | left_null => rfl
    | right_null => rfl
  · rintro rfl
    exact .right_null v

lemma exact_int64 {a b : Int64} :
    Exact op (.int64 a) (.int64 b) u ↔
      ∃ n : Int64, u = .int64 n ∧ n.toInt = intResult op a.toInt b.toInt := by
  constructor
  · intro h
    cases h with
    | int64 h => exact ⟨_, rfl, h⟩
  · rintro ⟨n, rfl, h⟩
    exact .int64 h

lemma intCell_int64_eq_ok_iff {a b : Int64} {cell : Option Int64} :
    intCell op (.int64 a) (.int64 b) = .ok cell ↔
      ∃ n : Int64, cell = some n ∧ n.toInt = intResult op a.toInt b.toInt := by
  rw [intCell]
  simp only [← Word.int64?_eq_some_iff]
  cases Word.int64? (intResult op a.toInt b.toInt) with
  | none => simp
  | some n => simp [eq_comm]

/-- Whether a value is an integer or missing. -/
def IsInteger (v : Scalar) : Prop := v = .null ∨ ∃ a, v = .int64 a

lemma intCell_eq_ok_iff (hv : IsInteger v) (hw : IsInteger w) {cell : Option Int64} :
    intCell op v w = .ok cell ↔ Exact op v w (DataType.int64.toScalarOrNull cell) := by
  have hnull : (.ok none : Except Fault (Option Int64)) = .ok cell ↔
      DataType.int64.toScalarOrNull cell = .null := by
    cases cell with
    | none => exact iff_of_true rfl rfl
    | some n => simp [DataType.toScalarOrNull, DataType.toScalar]
  rcases hv with rfl | ⟨a, rfl⟩
  · exact hnull.trans exact_null_left.symm
  · rcases hw with rfl | ⟨b, rfl⟩
    · exact hnull.trans exact_null_right.symm
    · rw [intCell_int64_eq_ok_iff, exact_int64]
      cases cell with
      | none => simp [DataType.toScalarOrNull]
      | some n => simp [DataType.toScalarOrNull, DataType.toScalar]

/-- An operation on two cells fails if and only if they hold integers on which the exact result does not fit
a word. -/
lemma exists_intCell_iff (hv : IsInteger v) (hw : IsInteger w) :
    (∃ cell, intCell op v w = .ok cell) ↔
      ∀ a b, v = .int64 a → w = .int64 b → Word.Fits 64 (intResult op a.toInt b.toInt) := by
  rcases hv with rfl | ⟨a, rfl⟩
  · exact iff_of_true ⟨none, rfl⟩ fun a b ha => by cases ha
  · rcases hw with rfl | ⟨b, rfl⟩
    · exact iff_of_true ⟨none, rfl⟩ fun a b _ hb => by cases hb
    · simp [intCell_int64_eq_ok_iff, Word.exists_toInt_eq_iff]

lemma intCell_failsWith_invalidOperation :
    FailsWith (·.kind = .invalidOperation) (intCell op v w) := by
  rw [intCell.eq_def]
  split
  · split
    · exact .ok _
    · exact .error rfl
  · exact .ok _

/-- Whether a type is one of integers, or without values. -/
def HoldsIntegers (dtype : DataType) : Prop := dtype = .int64 ∨ dtype = .null

lemma isInteger_valueAt (h : HoldsIntegers c.dtype) (row : Nat) : IsInteger (c.valueAt row) := by
  obtain ⟨cell, hcell⟩ := exists_valueAt_eq c row
  rw [← hcell]
  clear hcell
  generalize c.dtype = dtype at h cell
  rcases h with rfl | rfl
  · cases cell with
    | none => exact .inl rfl
    | some a => exact .inr ⟨a, rfl⟩
  · cases cell with
    | none => exact .inl rfl
    | some a => exact a.elim

section Operands

variable (hop : op ≠ .div) (hl : HoldsIntegers l.dtype) (hr : HoldsIntegers r.dtype) (hfit : Fit l r)
include hop hl hr hfit

lemma arithmetic_eq_mapM :
    l.arithmetic op r = ((List.range (commonHeight l r)).mapM fun row =>
      intCell op (l.valueAt row) (r.valueAt row)).map (Column.mk l.name .int64) := by
  have hoperand : ∀ {dtype}, HoldsIntegers dtype → isOperand dtype = true ∧ dtype ≠ .float64 := by
    rintro dtype (rfl | rfl)
    · exact ⟨rfl, by decide⟩
    · exact ⟨rfl, by decide⟩
  rw [arithmetic_eq_combine (Bool.and_eq_true_iff.mpr ⟨(hoperand hl).1, (hoperand hr).1⟩)
    ⟨hop, (hoperand hl).2, (hoperand hr).2⟩, combine_of_fit hfit]

/-- The column of an operation is known by the exact results of the rows. -/
lemma arithmetic_eq_ok_iff :
    l.arithmetic op r = .ok c ↔ c.name = l.name ∧ c.dtype = .int64 ∧
      List.Forall₂ (fun row u => Exact op (l.valueAt row) (r.valueAt row) u)
        (List.range (commonHeight l r)) c.toScalars := by
  -- Row by row the step of the definition is the exact operation, as both columns hold integers.
  have hcell : ∀ row cell, intCell op (l.valueAt row) (r.valueAt row) = .ok cell ↔
      Exact op (l.valueAt row) (r.valueAt row) (DataType.int64.toScalarOrNull cell) :=
    fun row cell => intCell_eq_ok_iff (isInteger_valueAt hl row) (isInteger_valueAt hr row)
  simp only [arithmetic_eq_mapM hop hl hr hfit, map_eq_ok, mapM_eq_ok_iff, hcell]
  constructor
  · rintro ⟨cells, hcells, rfl⟩
    exact ⟨rfl, rfl, List.forall₂_map_right_iff.mpr hcells⟩
  · obtain ⟨name, dtype, cells⟩ := c
    rintro ⟨hname, hdtype, hcells⟩
    obtain rfl : name = l.name := hname
    obtain rfl : dtype = .int64 := hdtype
    exact ⟨cells, List.forall₂_map_right_iff.mp hcells, rfl⟩

lemma exists_arithmetic_iff :
    (∃ c, l.arithmetic op r = .ok c) ↔ ∀ row < commonHeight l r, ∀ a b,
      l.valueAt row = .int64 a → r.valueAt row = .int64 b →
        Word.Fits 64 (intResult op a.toInt b.toInt) := by
  have hcells : (∃ c, l.arithmetic op r = .ok c) ↔ ∃ cells,
      (List.range (commonHeight l r)).mapM (fun row =>
        intCell op (l.valueAt row) (r.valueAt row)) = .ok cells := by
    simp [arithmetic_eq_mapM hop hl hr hfit]
  rw [hcells, exists_mapM_eq_ok_iff]
  simp only [List.mem_range]
  exact forall₂_congr fun row _ =>
    exists_intCell_iff (isInteger_valueAt hl row) (isInteger_valueAt hr row)

lemma arithmetic_failsWith_invalidOperation :
    FailsWith (·.kind = .invalidOperation) (l.arithmetic op r) := by
  rw [arithmetic_eq_mapM hop hl hr hfit]
  exact (FailsWith.mapM fun row _ => intCell_failsWith_invalidOperation).map _

end Operands

/-- A sum, a difference or a product of columns of integers fails, as an invalid operation, if and only if in
some row both columns hold an integer and the exact result on them does not fit a word. Otherwise it is a
column of integers with the name of the left one, and has in each row the exact result. A sum or a product
gives the same with the columns exchanged, but for the name. -/
theorem arithmetic_exact (hop : op ≠ .div) (hl : HoldsIntegers l.dtype) (hr : HoldsIntegers r.dtype)
    (hfit : Fit l r) :
    ((∃ fault, l.arithmetic op r = .error fault) ↔ ∃ row < commonHeight l r, ∃ a b,
      l.valueAt row = .int64 a ∧ r.valueAt row = .int64 b ∧
        ¬Word.Fits 64 (intResult op a.toInt b.toInt)) ∧
    (∀ fault, l.arithmetic op r = .error fault → fault.kind = .invalidOperation) ∧
    (∀ c, l.arithmetic op r = .ok c → c.name = l.name ∧ c.dtype = .int64 ∧
      c.length = commonHeight l r ∧
      ∀ row < commonHeight l r, Exact op (l.valueAt row) (r.valueAt row) (c.get row)) ∧
    (op = .add ∨ op = .mul → ∀ c : Column,
      l.arithmetic op r = .ok (c.rename l.name) ↔ r.arithmetic op l = .ok (c.rename r.name)) := by
  refine ⟨?_, arithmetic_failsWith_invalidOperation hop hl hr hfit, ?_, ?_⟩
  · have hfails : (∃ fault, l.arithmetic op r = .error fault) ↔ ¬∃ c, l.arithmetic op r = .ok c := by
      cases l.arithmetic op r <;> simp
    rw [hfails, exists_arithmetic_iff hop hl hr hfit]
    simp only [not_forall, exists_prop]
  · intro c hc
    obtain ⟨hname, hdtype, hcells⟩ := (arithmetic_eq_ok_iff hop hl hr hfit).mp hc
    have hlength : c.length = commonHeight l r := by
      rw [← length_toScalars, ← hcells.length_eq, List.length_range]
    refine ⟨hname, hdtype, hlength, ?_⟩
    intro row hrow
    obtain ⟨u, hu, hexact⟩ := exists_getElem?_of_forall₂ hcells (List.getElem?_range hrow)
    obtain ⟨-, rfl⟩ := getElem?_toScalars_eq_some_iff.mp hu
    exact hexact
  · intro hcomm c
    rw [arithmetic_eq_ok_iff hop hl hr hfit, arithmetic_eq_ok_iff hop hr hl hfit.symm,
      hfit.commonHeight_comm]
    -- Turned round, the exact operation is the same one, while the name is that of the other column.
    have hexact : ∀ row u, Exact op (l.valueAt row) (r.valueAt row) u ↔
        Exact op (r.valueAt row) (l.valueAt row) u := fun row u => ⟨.comm hcomm, .comm hcomm⟩
    simp only [hexact]
    exact and_congr (iff_of_true rfl rfl) Iff.rfl

/-- One added to the greatest word and to a missing one, and subtracted from them. -/
theorem arithmetic_exact_greatest :
    let n : Column := ⟨"n", .int64, [some Int64.maxValue, none]⟩
    let m : Column := ⟨"m", .int64, [some 1]⟩
    HoldsIntegers n.dtype ∧ HoldsIntegers m.dtype ∧ Fit n m ∧
      (∃ fault, n.arithmetic .add m = .error fault ∧ fault.kind = .invalidOperation) ∧
      ∃ c, n.arithmetic .sub m = .ok c ∧ c.length = 2 ∧
        (∃ v : Int64, c.get 0 = .int64 v ∧ v.toInt = 2 ^ 63 - 2) ∧ c.get 1 = .null := by
  intro n m
  have hn : HoldsIntegers n.dtype := .inl rfl
  have hm : HoldsIntegers m.dtype := .inl rfl
  have hfit : Fit n m := .inr (.inr rfl)
  have hadd : Arithmetic.add ≠ .div := by decide
  have hsub : Arithmetic.sub ≠ .div := by decide
  obtain ⟨hfails, hkind, -⟩ := arithmetic_exact hadd hn hm hfit
  obtain ⟨fault, hfault⟩ := hfails.mpr ⟨0, by decide, _, _, rfl, rfl, by decide⟩
  obtain ⟨c, hc⟩ : ∃ c, n.arithmetic .sub m = .ok c := ⟨_, rfl⟩
  obtain ⟨-, -, hresult, -⟩ := arithmetic_exact hsub hn hm hfit
  obtain ⟨-, -, hlength, hexact⟩ := hresult c hc
  exact ⟨hn, hm, hfit, ⟨fault, hfault, hkind fault hfault⟩, c, hc, hlength,
    exact_int64.mp (hexact 0 (by decide)), exact_null_left.mp (hexact 1 (by decide))⟩

end TimeTable.Column
