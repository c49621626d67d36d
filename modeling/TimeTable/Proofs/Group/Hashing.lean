import TimeTable.Proofs.Column.Order
import TimeTable.Proofs.Key

/-!
# What keys feed to a hash

Rows with an equal key feed the same to every hash. What they feed tells the key up to the zones of
instants: the writes of an item of a list begin with its kind and those of a list with its length, so they
can be taken apart again.
-/

namespace TimeTable

mutual

/-- A value without the zones of the instants in it. -/
def Scalar.zoneless : Scalar → Scalar
  | .datetime ticks unit _ => .datetime ticks unit none
  | .list vs => .list (Scalar.zonelessItems vs)
  | v => v

/-- The items of a list without the zones of the instants in them. -/
def Scalar.zonelessItems : List Scalar → List Scalar
  | [] => []
  | v :: vs => v.zoneless :: zonelessItems vs

end

lemma Scalar.length_zonelessItems (vs : List Scalar) : (zonelessItems vs).length = vs.length := by
  induction vs with
  | nil => rfl
  | cons v vs ih => rw [zonelessItems, List.length_cons, List.length_cons, ih]

/-- Cells of a type without lists are told apart without zones, as they share that of their type. -/
lemma DataType.zoneless_eq_iff {dtype : DataType} (hlist : dtype.isList = false)
    {x y : Option dtype.Cell} :
    (dtype.toScalarOrNull x).zoneless = (dtype.toScalarOrNull y).zoneless ↔ x = y := by
  cases dtype with
  | null => exact iff_of_true (by rw [eq_of_null x y]) (eq_of_null x y)
  | list inner => exact absurd hlist Bool.true_eq_false.mp
  | _ => cases x <;> cases y <;> simp [toScalarOrNull, toScalar, Scalar.zoneless]

@[simp] lemma HashWrite.boolean_inj {v w : Bool} : HashWrite.boolean v = .boolean w ↔ v = w := by
  cases v <;> cases w <;> simp [boolean]

@[simp] lemma TimeUnit.index_inj {unit unit' : TimeUnit} :
    unit.index = unit'.index ↔ unit = unit' := by
  cases unit <;> cases unit' <;> simp [index]

/-- A part that may be missing is told by its writes if the part itself is. -/
lemma HashWrite.optional_inj {α : Type} {write : α → HashWrite}
    (hwrite : ∀ v w, write v = write w → v = w) {x y : Option α} :
    optional write x = optional write y ↔ x = y := by
  cases x with
  | none => cases y <;> simp [optional]
  | some v =>
    cases y with
    | none => simp [optional]
    | some w => simpa [optional] using ⟨hwrite v w, congrArg write⟩

/-- The length of a list and the writes of its items tell the items, if those of lists of one length do. -/
lemma Scalar.size_itemWrites_eq_iff {vs ws : List Scalar} (rest rest' : List HashWrite)
    (hitems : vs.length = ws.length → (itemWrites vs ++ rest = itemWrites ws ++ rest' ↔
      zonelessItems vs = zonelessItems ws ∧ rest = rest')) :
    HashWrite.size vs.length :: (itemWrites vs ++ rest) =
        .size ws.length :: (itemWrites ws ++ rest') ↔
      zonelessItems vs = zonelessItems ws ∧ rest = rest' := by
  rw [List.cons_eq_cons, HashWrite.size.injEq]
  constructor
  · rintro ⟨hlength, hwrites⟩
    exact (hitems hlength).mp hwrites
  · intro h
    have hlength : vs.length = ws.length := by
      rw [← length_zonelessItems vs, h.1, length_zonelessItems]
    exact ⟨hlength, (hitems hlength).mpr h⟩

-- An item is followed by the other items of its list, and a list by what follows it in the lists around
-- it. Therefore the induction over values speaks of writes with more writes behind them.

mutual

/-- The writes of a value tell the value, and where they end. -/
lemma Scalar.writes_append_eq_iff (v w : Scalar) (rest rest' : List HashWrite) :
    v.writes ++ rest = w.writes ++ rest' ↔ v.zoneless = w.zoneless ∧ rest = rest' := by
  match v with
  | .list vs =>
    cases w with
    | list ws =>
      -- The length is written in front, so the items of lists of one length are compared one by one.
      rw [writes, writes, zoneless, zoneless, Scalar.list.injEq]
      rw [← size_itemWrites_eq_iff rest rest'
        fun h => Scalar.itemWrites_append_eq_iff vs ws h rest rest']
      simp
    | _ => simp [writes, zoneless]
  | .null | .boolean _ | .int64 _ | .float64 _ | .utf8 _ | .date _ | .datetime .. | .duration .. =>
    cases w <;> simp [writes, zoneless, Binary64.bits_injective.eq_iff, and_assoc]

/-- The writes of items tell the items, and where they end, if it is known how many there are. -/
lemma Scalar.itemWrites_append_eq_iff (vs ws : List Scalar) (hlength : vs.length = ws.length)
    (rest rest' : List HashWrite) :
    itemWrites vs ++ rest = itemWrites ws ++ rest' ↔
      zonelessItems vs = zonelessItems ws ∧ rest = rest' := by
  match vs, ws with
  | [], [] => simp [itemWrites, zonelessItems]
  | [], _ :: _ | _ :: _, [] => simp at hlength
  | v :: vs, w :: ws =>
    rw [itemWrites, itemWrites, List.append_assoc, List.append_assoc,
      Scalar.writes_append_eq_iff v w,
      Scalar.itemWrites_append_eq_iff vs ws (Nat.succ.inj hlength), zonelessItems, zonelessItems,
      List.cons_eq_cons, and_assoc]

end

/-- The writes of a cell of a type without lists tell the cell. -/
lemma DataType.cellWrites_inj {dtype : DataType} (hlist : dtype.isList = false)
    {x y : Option dtype.Cell} : dtype.cellWrites x = dtype.cellWrites y ↔ x = y := by
  cases dtype with
  | null => exact iff_of_true rfl (eq_of_null x y)
  | boolean => exact HashWrite.optional_inj fun _ _ => HashWrite.boolean_inj.mp
  | int64 => exact HashWrite.optional_inj fun _ _ => HashWrite.int64.inj
  | float64 =>
    exact HashWrite.optional_inj fun _ _ h => Binary64.bits_injective (HashWrite.word.inj h)
  | utf8 => exact HashWrite.optional_inj fun _ _ => HashWrite.text.inj
  | date => exact HashWrite.optional_inj fun _ _ => HashWrite.int32.inj
  | datetime unit zone => exact HashWrite.optional_inj fun _ _ => HashWrite.int64.inj
  | duration unit => exact HashWrite.optional_inj fun _ _ => HashWrite.int64.inj
  | list inner => exact absurd hlist Bool.true_eq_false.mp

/-- The writes of a cell tell its value up to zones. -/
lemma DataType.cellWrites_eq_iff {dtype : DataType} {x y : Option dtype.Cell} :
    dtype.cellWrites x = dtype.cellWrites y ↔
      (dtype.toScalarOrNull x).zoneless = (dtype.toScalarOrNull y).zoneless := by
  cases dtype with
  | list inner =>
    match x, y with
    | none, none => exact iff_of_true rfl rfl
    | some vs, none | none, some vs => simp [cellWrites, toScalarOrNull, toScalar, Scalar.zoneless]
    | some vs, some ws =>
      have hitems := Scalar.size_itemWrites_eq_iff [] []
        fun h => Scalar.itemWrites_append_eq_iff vs ws h [] []
      simpa [cellWrites, toScalarOrNull, toScalar, Scalar.zoneless] using hitems
  | _ => rw [cellWrites_inj rfl, zoneless_eq_iff rfl]

namespace Column

lemma keyWrites_eq_iff {key : Column} {a b : Nat} :
    key.keyWrites a = key.keyWrites b ↔ (key.get a).zoneless = (key.get b).zoneless :=
  DataType.cellWrites_eq_iff

/-- Equality of a key is an equivalence of rows: that of having one value, which a NaN and a missing value
are like any other, at every depth of lists. Rows that it relates feed the same writes to every hash. The
writes are the same exactly for rows whose values differ at most in the zones of instants. -/
theorem sameKey_hashes_alike (key : Column) :
    (Equivalence fun a b => key.sameKey a b = true) ∧
      ∀ a b, (key.sameKey a b = true ↔ key.get a = key.get b) ∧
        (key.sameKey a b = true → key.keyWrites a = key.keyWrites b) ∧
        (key.keyWrites a = key.keyWrites b ↔ (key.get a).zoneless = (key.get b).zoneless) := by
  refine ⟨?_, fun a b => ⟨sameKey_iff, ?_, keyWrites_eq_iff⟩⟩
  · exact sameKey_equivalence key
  · intro hsame
    rw [keyWrites_eq_iff, sameKey_iff.mp hsame]

/-- Nested lists with a NaN, a missing value and an instant are equal keys and feed the same to a hash. In
another zone the instant makes another key that still feeds the same. -/
theorem sameKey_hashes_alike_nested :
    let items (zone : Option Zone) : List Scalar :=
      [.list [.float64 .nan, .null], .utf8 "é", .datetime (-1) .milliseconds zone]
    let key : Column := ⟨"k", .list (.list .float64),
      [some (items none), some (items none), some (items (some ⟨"UTC", default, []⟩))]⟩
    key.sameKey 0 1 = true ∧ key.keyWrites 0 = key.keyWrites 1 ∧ key.sameKey 0 2 = false ∧
      key.keyWrites 0 = key.keyWrites 2 := by
  intro items key
  have hsame : key.sameKey 0 1 = true := rfl
  have hwrites := ((sameKey_hashes_alike key).2 0 1).2.1 hsame
  have hzone := ((sameKey_hashes_alike key).2 0 2).2.2.mpr rfl
  exact ⟨hsame, hwrites, rfl, hzone⟩

end Column
end TimeTable
