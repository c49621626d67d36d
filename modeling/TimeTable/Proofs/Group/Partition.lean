import TimeTable.Proofs.Group.Building
import TimeTable.Proofs.Group.Check

namespace TimeTable.GroupIndex

variable {keys : List Column} {rowCount : Nat}

/-- Keys of the right length pass the checks of `buildWith`. -/
lemma buildWith_eq_ok (rowHash : Nat → UInt64) (hkeys : keys ≠ [])
    (hlength : ∀ key ∈ keys, key.length = rowCount) :
    buildWith rowHash keys rowCount =
      .ok ⟨groupRows rowHash (Column.sameRow keys) rowCount, rowCount⟩ := by
  have hfind : (keys.find? fun key => key.length ≠ rowCount) = none := by
    rw [List.find?_eq_none]
    intro key hkey
    simp [hlength key hkey]
  rw [buildWith, if_neg (by simpa using hkeys), hfind]

/-- No group of an index is empty, whatever hash it was built with. -/
lemma ne_nil_of_buildWith {rowHash : Nat → UInt64} {index : GroupIndex}
    (h : buildWith rowHash keys rowCount = .ok index) : ∀ group ∈ index.groups, group ≠ [] := by
  rw [buildWith] at h
  split at h
  · exact nomatch h
  · split at h
    · exact nomatch h
    · obtain rfl := Except.ok.inj h
      intro group hgroup
      obtain ⟨g, -, rfl⟩ := List.mem_map.mp hgroup
      exact List.cons_ne_nil _ _

lemma length_firstRows {index : GroupIndex} (h : ∀ group ∈ index.groups, group ≠ []) :
    index.firstRows.length = index.groups.length := by
  obtain ⟨groups, rowCount⟩ := index
  rw [firstRows]
  dsimp only at h ⊢
  induction groups with
  | nil => rfl
  | cons group groups ih =>
    rw [List.forall_mem_cons] at h
    obtain ⟨row, rows, rfl⟩ := List.exists_cons_of_ne_nil h.1
    rw [List.filterMap_cons, List.head?_cons, List.length_cons, List.length_cons, ih h.2]

/-- Classes pass the partition check. -/
lemma Classifies.verifyPartition {index : GroupIndex} {related : Nat → Nat → Prop}
    (h : index.Classifies related) : index.verifyPartition index.rowCount = .ok () :=
  verifyPartition_eq_ok_iff.mpr ⟨h.nonempty, h.covers⟩

/-- With any hash of the keys the groups are the classes of rows with equal keys. -/
lemma buildWith_eq_classes {rowHash : Nat → UInt64} (hkeys : keys ≠ [])
    (hlength : ∀ key ∈ keys, key.length = rowCount)
    (hhash : ∀ a < rowCount, ∀ b < rowCount,
      (∀ key ∈ keys, key.get a = key.get b) → rowHash a = rowHash b) :
    buildWith rowHash keys rowCount = .ok ⟨classes (Column.sameRow keys) rowCount, rowCount⟩ := by
  rw [buildWith_eq_ok rowHash hkeys hlength, groupRows_eq_classes (Column.sameRow_equivalence keys)]
  intro a ha b hb hsame
  exact hhash a ha b hb (Column.sameRow_iff.mp hsame)

/-- There is one index that every hash of the keys leads to. It classifies the rows by equality of all
their keys, a missing value being equal to a missing one, a floating-point number to one of the same
bits and a list to one of equal items, and it passes the partition check. The hash that is used is one
of those. -/
theorem exists_index_buildWith (hkeys : keys ≠ []) (hlength : ∀ key ∈ keys, key.length = rowCount) :
    ∃ index : GroupIndex, index.rowCount = rowCount ∧
      (index.Classifies fun a b => ∀ key ∈ keys, key.get a = key.get b) ∧
      index.verifyPartition rowCount = .ok () ∧
      (∀ rowHash : Nat → UInt64,
        (∀ a < rowCount, ∀ b < rowCount,
          (∀ key ∈ keys, key.get a = key.get b) → rowHash a = rowHash b) →
        buildWith rowHash keys rowCount = .ok index) ∧
      build keys rowCount = .ok index := by
  have hclasses := classifies_classes (n := rowCount) (Column.sameRow_equivalence keys)
  simp only [Column.sameRow_iff] at hclasses
  exact ⟨_, rfl, hclasses, hclasses.verifyPartition,
    fun _ hhash => buildWith_eq_classes hkeys hlength hhash,
    buildWith_eq_classes hkeys hlength fun _ _ _ _ h => Column.rowHash_congr h⟩

/-- Rows that are a NaN, a zero of either sign or missing are told apart although they collide. -/
theorem exists_index_buildWith_collision :
    let keys : List Column :=
      [⟨"f", .float64, [some .nan, some .negativeZero, none, some .nan, some .zero, none]⟩,
        ⟨"l", .list .float64, [some [.float64 .nan, .null], none, some [], some [.float64 .nan, .null],
          none, some []]⟩]
    keys ≠ [] ∧ (∀ key ∈ keys, key.length = 6) ∧
      (∀ a < 6, ∀ b < 6, (∀ key ∈ keys, key.get a = key.get b) → (0 : UInt64) = 0) ∧
      ∃ index : GroupIndex, index.rowCount = 6 ∧
        (index.Classifies fun a b => ∀ key ∈ keys, key.get a = key.get b) ∧
        index.verifyPartition 6 = .ok () ∧ buildWith (fun _ => 0) keys 6 = .ok index := by
  intro keys
  have hkeys : keys ≠ [] := by simp [keys]
  have hlength : ∀ key ∈ keys, key.length = 6 := by simp [keys, Column.length]
  obtain ⟨index, hcount, hclass, hverify, hbuild, -⟩ := exists_index_buildWith hkeys hlength
  exact ⟨hkeys, hlength, fun _ _ _ _ _ => rfl, index, hcount, hclass, hverify,
    hbuild (fun _ => 0) fun _ _ _ _ _ => rfl⟩

end TimeTable.GroupIndex
