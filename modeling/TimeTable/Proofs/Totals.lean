import Mathlib.Algebra.BigOperators.Group.List.Basic
import Mathlib.Algebra.Order.BigOperators.Group.List
import Mathlib.Algebra.Order.Ring.Int
import Mathlib.Data.List.Infix
import Mathlib.Tactic.Lemma
import TimeTable.Word

/-!
# Totals

The total of words as an integer, and the sums on the way to it when the words are added from the left. A
total may fit a word although a sum on the way does not, but if the total fits, then there is an order of
the words in which all sums do.
-/

namespace TimeTable.Word

variable {n start : Int} {v : Int64} {vs ws : List Int64}

/-- That an integer fits a signed word of a width. -/
def Fits (width : Nat) (n : Int) : Prop := -2 ^ (width - 1) ≤ n ∧ n < 2 ^ (width - 1)

instance (width : Nat) (n : Int) : Decidable (Fits width n) :=
  inferInstanceAs (Decidable (_ ∧ _))

lemma fits_64_iff : Fits 64 n ↔ -0x8000000000000000 ≤ n ∧ n < 0x8000000000000000 := Iff.rfl

lemma fits_toInt (v : Int64) : Fits 64 v.toInt := ⟨v.le_toInt, v.toInt_lt⟩

lemma fits_of_nonneg_of_le {m : Int} (hn : 0 ≤ n) (hle : n ≤ m) (hm : Fits 64 m) : Fits 64 n := by
  rw [fits_64_iff] at hm ⊢
  omega

lemma Fits.widen (h : Fits 64 n) : Fits 128 n := by
  rw [fits_64_iff] at h
  exact ⟨by omega, by omega⟩

lemma Fits.toInt_ofInt (h : Fits 64 n) : (Int64.ofInt n).toInt = n :=
  Int64.toInt_ofInt_of_le h.1 h.2

lemma exists_toInt_eq_iff : (∃ v : Int64, v.toInt = n) ↔ Fits 64 n := by
  constructor
  · rintro ⟨v, rfl⟩
    exact fits_toInt v
  · intro h
    exact ⟨Int64.ofInt n, h.toInt_ofInt⟩

/-- An integer that fits a word is not changed when it is cut to the width of the word. -/
lemma Fits.bmod_eq {k : Nat} (h : Fits (k + 1) n) : n.bmod (2 ^ (k + 1)) = n := by
  obtain ⟨hlow, hhigh⟩ := h
  rw [Nat.add_sub_cancel] at hlow hhigh
  apply Int.bmod_eq_of_le_mul_two
  · push_cast [pow_succ]
    omega
  · push_cast [pow_succ]
    omega

def total (vs : List Int64) : Int := (vs.map Int64.toInt).sum

@[simp] lemma total_nil : total [] = 0 := rfl

@[simp] lemma total_cons (v : Int64) (vs : List Int64) : total (v :: vs) = v.toInt + total vs := by
  simp [total]

lemma total_perm (h : vs.Perm ws) : total vs = total ws := (h.map Int64.toInt).sum_eq

lemma length_mul_le_total {least : Int} (h : ∀ v ∈ vs, least ≤ v.toInt) :
    vs.length * least ≤ total vs := by
  simpa [total] using List.card_nsmul_le_sum (vs.map Int64.toInt) least (by simpa using h)

lemma total_le_length_mul {greatest : Int} (h : ∀ v ∈ vs, v.toInt ≤ greatest) :
    total vs ≤ vs.length * greatest := by
  simpa [total] using List.sum_le_card_nsmul (vs.map Int64.toInt) greatest (by simpa using h)

/-- The total of fewer than `2 ^ 63` words fits a word of twice the width. -/
lemma fits_128_total (h : vs.length < 0x8000000000000000) : Fits 128 (total vs) := by
  have hlow : vs.length * -2 ^ 63 ≤ total vs := length_mul_le_total fun v _ => v.le_toInt
  have hhigh : total vs ≤ vs.length * 2 ^ 63 := total_le_length_mul fun v _ => Int.le_of_lt v.toInt_lt
  constructor
  · omega
  · omega

/-- If no word is less than a number, then neither is the mean of the words, cut toward zero. -/
lemma le_total_tdiv_length {least : Int} (hne : vs ≠ []) (h : ∀ v ∈ vs, least ≤ v.toInt) :
    least ≤ (total vs).tdiv vs.length := by
  have hpos : 0 < (vs.length : Int) := Int.natCast_pos.mpr (List.length_pos_iff.mpr hne)
  exact Int.le_tdiv_of_mul_le hpos (Int.mul_comm least _ ▸ length_mul_le_total h)

lemma total_tdiv_length_le {greatest : Int} (hne : vs ≠ []) (h : ∀ v ∈ vs, v.toInt ≤ greatest) :
    (total vs).tdiv vs.length ≤ greatest := by
  have hpos : 0 < (vs.length : Int) := Int.natCast_pos.mpr (List.length_pos_iff.mpr hne)
  have htotal := total_le_length_mul h
  have hneg : -greatest ≤ (-total vs).tdiv vs.length :=
    Int.le_tdiv_of_mul_le hpos (by rw [Int.neg_mul, Int.mul_comm]; omega)
  rw [Int.neg_tdiv] at hneg
  omega

lemma fits_64_total_tdiv_length (hne : vs ≠ []) : Fits 64 ((total vs).tdiv vs.length) := by
  have hlow := le_total_tdiv_length hne fun v _ => v.le_toInt
  have hhigh := total_tdiv_length_le hne fun v _ => Int.le_sub_one_of_lt v.toInt_lt
  exact ⟨hlow, Int.lt_of_le_sub_one hhigh⟩

/-- That every sum on the way to a total fits a word. -/
def PartialSumsFit (vs : List Int64) : Prop := ∀ ws, ws <+: vs → Fits 64 (total ws)

instance (vs : List Int64) : Decidable (PartialSumsFit vs) :=
  decidable_of_iff (∀ ws ∈ vs.inits, Fits 64 (total ws))
    (forall_congr' fun ws => imp_congr_left (List.mem_inits ws vs))

lemma PartialSumsFit.fits_total (h : PartialSumsFit vs) : Fits 64 (total vs) :=
  h vs (List.prefix_refl vs)

section Order

variable {α : Type} {size : α → Int} {xs : List α}

/-- If a number fits and a sum that starts with it does, then so does the number with some member of the
sum added: with one that leads back toward zero, or else with any, because then all lead the same way. -/
lemma exists_mem_fits_add (hne : xs ≠ []) (hstart : Fits 64 start)
    (hfits : ∀ x ∈ xs, Fits 64 (size x)) (htotal : Fits 64 (start + (xs.map size).sum)) :
    ∃ x ∈ xs, Fits 64 (start + size x) := by
  rw [fits_64_iff] at hstart htotal
  by_cases hback : ∃ x ∈ xs, 0 ≤ start ∧ size x ≤ 0 ∨ start < 0 ∧ 0 ≤ size x
  · obtain ⟨x, hx, hback⟩ := hback
    have hsize := fits_64_iff.mp (hfits x hx)
    exact ⟨x, hx, fits_64_iff.mpr (by omega)⟩
  -- All sizes point away from zero on the side of the start, so the sums grow steadily up to the total.
  · have hon : ∀ x ∈ xs, (0 ≤ start → 0 ≤ size x) ∧ (start < 0 → size x ≤ 0) := by
      intro x hx
      have hx' := not_and.mp (not_exists.mp hback x) hx
      omega
    obtain ⟨x, rest, rfl⟩ := List.exists_cons_of_ne_nil hne
    refine ⟨x, List.mem_cons_self, ?_⟩
    rw [List.forall_mem_cons] at hon
    rw [List.map_cons, List.sum_cons] at htotal
    have hup : 0 ≤ start → 0 ≤ (rest.map size).sum := fun h =>
      List.sum_nonneg (List.forall_mem_map.mpr fun y hy => (hon.2 y hy).1 h)
    have hdown : start < 0 → (rest.map size).sum ≤ 0 := fun h => by
      simpa using List.sum_le_card_nsmul (rest.map size) 0
        (List.forall_mem_map.mpr fun y hy => (hon.2 y hy).2 h)
    exact fits_64_iff.mpr (by omega)

/-- If a sum fits, then in some order of its members every sum on the way to it does. -/
lemma exists_perm_fits (hstart : Fits 64 start) (hfits : ∀ x ∈ xs, Fits 64 (size x))
    (htotal : Fits 64 (start + (xs.map size).sum)) :
    ∃ ys : List α, ys.Perm xs ∧ ∀ zs, zs <+: ys → Fits 64 (start + (zs.map size).sum) := by
  -- A member that can be added to the start comes first, and the others go on from there.
  induction hlength : xs.length generalizing xs start with
  | zero =>
    refine ⟨[], (List.length_eq_zero_iff.mp hlength) ▸ .nil, ?_⟩
    intro zs hzs
    rw [List.prefix_nil.mp hzs]
    simpa using hstart
  | succ n ih =>
    have hne : xs ≠ [] := by
      rintro rfl
      simp at hlength
    obtain ⟨x, hx, hnext⟩ := exists_mem_fits_add hne hstart hfits htotal
    obtain ⟨before, after, rfl⟩ := List.append_of_mem hx
    have hperm : (before ++ x :: after).Perm (x :: (before ++ after)) := List.perm_middle
    have hsum := (hperm.map size).sum_eq
    rw [List.map_cons, List.sum_cons] at hsum
    rw [hsum, ← Int.add_assoc] at htotal
    obtain ⟨ys, hys, hprefix⟩ := ih hnext
      (fun y hy => hfits y (hperm.symm.subset (List.mem_cons_of_mem x hy))) htotal
      (by simpa using hperm.length_eq.symm.trans hlength)
    refine ⟨x :: ys, (hys.cons x).trans hperm.symm, ?_⟩
    intro zs hzs
    rcases List.prefix_cons_iff.mp hzs with rfl | ⟨ws, rfl, hws⟩
    · simpa using hstart
    · rw [List.map_cons, List.sum_cons, ← Int.add_assoc]
      exact hprefix ws hws

variable {word : α → Option Int64}

lemma total_filterMap (word : α → Option Int64) (xs : List α) :
    total (xs.filterMap word) = (xs.map fun x => (word x).elim 0 Int64.toInt).sum := by
  induction xs with
  | nil => rfl
  | cons x xs ih => cases h : word x <;> simp [h, ih]

/-- If the total of the words that members have fits, then the members have an order in which every sum
on the way to it does. -/
lemma exists_perm_partialSumsFit (htotal : Fits 64 (total (xs.filterMap word))) :
    ∃ ys : List α, ys.Perm xs ∧ PartialSumsFit (ys.filterMap word) := by
  have hfits : ∀ x ∈ xs, Fits 64 ((word x).elim 0 Int64.toInt) := by
    intro x _
    cases word x with
    | none => exact fits_toInt 0
    | some v => exact fits_toInt v
  rw [total_filterMap, ← Int.zero_add (List.sum _)] at htotal
  obtain ⟨ys, hys, hprefix⟩ := exists_perm_fits (fits_toInt 0) hfits htotal
  refine ⟨ys, hys, ?_⟩
  intro ws hws
  obtain ⟨zs, hzs, rfl⟩ := List.prefix_filterMap_iff.mp hws
  have hsum := hprefix zs hzs
  rwa [← total_filterMap, Int64.toInt_zero, Int.zero_add] at hsum

end Order

end TimeTable.Word
