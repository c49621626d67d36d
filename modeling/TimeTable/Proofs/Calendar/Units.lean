import Mathlib.Tactic.Lemma
import TimeTable.Proofs.Totals
import TimeTable.Temporal

namespace TimeTable

variable {x m n : Int} {b c k : Nat}

/-- A quotient that is divided once more is the quotient by the product. -/
lemma tdiv_tdiv (x : Int) (b c : Nat) : (x.tdiv b).tdiv c = x.tdiv (b * c : Nat) := by
  obtain ⟨n, rfl | rfl⟩ := x.eq_nat_or_neg
  · rw [← Int.ofNat_tdiv, ← Int.ofNat_tdiv, ← Int.ofNat_tdiv, Nat.div_div_eq_div_mul]
  · rw [Int.neg_tdiv, Int.neg_tdiv, Int.neg_tdiv, ← Int.ofNat_tdiv, ← Int.ofNat_tdiv, ← Int.ofNat_tdiv,
      Nat.div_div_eq_div_mul]

/-- The quotient by a larger number is not farther from zero. -/
lemma Word.Fits.tdiv_of_le (hpos : 0 < b) (hle : b ≤ c) (h : Word.Fits 64 (x.tdiv b)) :
    Word.Fits 64 (x.tdiv c) := by
  obtain ⟨n, rfl | rfl⟩ := x.eq_nat_or_neg
  · rw [← Int.ofNat_tdiv] at h ⊢
    have hquotient : n / c ≤ n / b := Nat.div_le_div_left hle hpos
    exact Word.fits_of_nonneg_of_le (Int.natCast_nonneg _) (Int.ofNat_le.mpr hquotient) h
  · rw [Int.neg_tdiv, ← Int.ofNat_tdiv, Word.fits_64_iff] at h ⊢
    have hquotient : n / c ≤ n / b := Nat.div_le_div_left hle hpos
    generalize n / c = q, n / b = r at hquotient h
    omega

/-- A number that is moved toward zero to a multiple of another one is not farther from zero. -/
lemma Word.Fits.tdiv_mul (h : Word.Fits 64 x) (b : Nat) : Word.Fits 64 (x.tdiv b * b) := by
  obtain ⟨n, rfl | rfl⟩ := x.eq_nat_or_neg
  · rw [← Int.ofNat_tdiv, ← Int.natCast_mul]
    have hmultiple : n / b * b ≤ n := Nat.div_mul_le_self n b
    exact Word.fits_of_nonneg_of_le (Int.natCast_nonneg _) (Int.ofNat_le.mpr hmultiple) h
  · rw [Int.neg_tdiv, ← Int.ofNat_tdiv, Int.neg_mul, ← Int.natCast_mul, Word.fits_64_iff] at *
    have hmultiple : n / b * b ≤ n := Nat.div_mul_le_self n b
    generalize n / b * b = q at hmultiple
    omega

namespace TimeUnit

variable {u middle target : TimeUnit}

lemma nanos_pos (u : TimeUnit) : 0 < u.nanos := by cases u <;> decide

lemma perSecond_mul_nanos (u : TimeUnit) : (u.perSecond : Int) * u.nanos = 1000000000 := by
  cases u <;> rfl

lemma nanos_le_iff : u.nanos ≤ target.nanos ↔ target.perSecond ≤ u.perSecond := by
  cases u <;> cases target <;> decide

/-- The tick of a coarser unit consists of as many finer ones as there are more of them in a second. -/
lemma nanos_eq (h : u.perSecond ≤ target.perSecond) :
    u.nanos = target.perSecond / u.perSecond * target.nanos := by
  revert h
  cases u <;> cases target <;> decide

lemma nanos_dvd (h : u.nanos ≤ target.nanos) : u.nanos ∣ target.nanos :=
  ⟨_, (nanos_eq (nanos_le_iff.mp h)).trans (Nat.mul_comm _ _)⟩

/-- The count of some ticks in a unit of `k` nanoseconds, what is left over being dropped toward zero. -/
def countIn (u : TimeUnit) (n : Int) (k : Nat) : Int := (n * u.nanos).tdiv k

/-- The count in the unit of the ticks is their number. -/
@[simp] lemma countIn_nanos (u : TimeUnit) (n : Int) : u.countIn n u.nanos = n :=
  Int.mul_tdiv_cancel n (Int.natCast_ne_zero.mpr u.nanos_pos.ne')

/-- The two ways of scaling a number of ticks both give its count in the new unit. -/
lemma scaled_eq_countIn (u : TimeUnit) (n : Int) (target : TimeUnit) :
    u.scaled n target = u.countIn n target.nanos := by
  rw [scaled, countIn]
  split
  · next hle =>
    rw [nanos_eq hle, Int.natCast_mul, ← Int.mul_assoc,
      Int.mul_tdiv_cancel _ (Int.natCast_ne_zero.mpr target.nanos_pos.ne')]
  · next hlt =>
    rw [nanos_eq (Nat.le_of_not_le hlt), Int.natCast_mul,
      Int.mul_tdiv_mul_of_pos_left _ _ (Int.natCast_pos.mpr u.nanos_pos)]

/-- A coarser unit drops what is left of its tick toward zero. -/
lemma countIn_of_nanos_le (n : Int) (h : u.nanos ≤ target.nanos) :
    u.countIn n target.nanos = n.tdiv (target.nanos / u.nanos : Nat) := by
  obtain ⟨ratio, hratio⟩ := nanos_dvd h
  rw [countIn, hratio, Nat.mul_div_cancel_left ratio u.nanos_pos, Nat.mul_comm, Int.natCast_mul,
    Int.mul_tdiv_mul_of_pos_left _ _ (Int.natCast_pos.mpr u.nanos_pos)]

/-- A finer unit multiplies. -/
lemma countIn_of_le_nanos (n : Int) (h : target.nanos ≤ u.nanos) :
    u.countIn n target.nanos = n * (u.nanos / target.nanos : Nat) := by
  obtain ⟨ratio, hratio⟩ := nanos_dvd h
  rw [countIn, hratio, Nat.mul_div_cancel_left ratio target.nanos_pos, Nat.mul_comm, Int.natCast_mul,
    ← Int.mul_assoc, Int.mul_tdiv_cancel _ (Int.natCast_ne_zero.mpr target.nanos_pos.ne')]

lemma countIn_le_countIn (u : TimeUnit) (hpos : 0 < k) (h : m ≤ n) : u.countIn m k ≤ u.countIn n k :=
  Int.tdiv_le_tdiv (Int.natCast_pos.mpr hpos) (Int.mul_le_mul_of_nonneg_right h (Int.natCast_nonneg _))

/-- A count in a unit that the tick or another unit consists of is the count in that unit when it is
counted again. -/
lemma countIn_countIn (u middle : TimeUnit) (n : Int) (h : middle.nanos ∣ u.nanos ∨ middle.nanos ∣ k) :
    middle.countIn (u.countIn n middle.nanos) k = u.countIn n k := by
  rw [countIn, countIn, countIn]
  rcases h with ⟨ratio, hratio⟩ | ⟨ratio, rfl⟩
  · have hdvd : (middle.nanos : Int) ∣ n * u.nanos := by
      rw [hratio, Int.natCast_mul]
      exact Int.dvd_mul_of_dvd_right (Int.dvd_mul_right _ _)
    rw [Int.tdiv_mul_cancel hdvd]
  · rw [Int.natCast_mul, Int.mul_comm _ (middle.nanos : Int),
      Int.mul_tdiv_mul_of_pos _ _ (Int.natCast_pos.mpr middle.nanos_pos), tdiv_tdiv, Int.natCast_mul]

/-- Counts in coarser units always fit. -/
lemma fits_countIn_of_nanos_le (hn : Word.Fits 64 n) (h : u.nanos ≤ target.nanos) :
    Word.Fits 64 (u.countIn n target.nanos) := by
  rw [← countIn_nanos u n] at hn
  exact hn.tdiv_of_le u.nanos_pos h

/-- That a unit is neither finer nor coarser than two others, on the way from one to the other. -/
def IsBetween (middle u target : TimeUnit) : Prop :=
  u.nanos ≤ middle.nanos ∧ middle.nanos ≤ target.nanos ∨
    target.nanos ≤ middle.nanos ∧ middle.nanos ≤ u.nanos

instance (middle u target : TimeUnit) : Decidable (middle.IsBetween u target) :=
  inferInstanceAs (Decidable (_ ∨ _))

namespace IsBetween

lemma countIn_countIn (h : middle.IsBetween u target) (n : Int) :
    middle.countIn (u.countIn n middle.nanos) target.nanos = u.countIn n target.nanos := by
  refine TimeUnit.countIn_countIn u middle n ?_
  rcases h with ⟨-, htarget⟩ | ⟨-, hu⟩
  · exact .inr (nanos_dvd htarget)
  · exact .inl (nanos_dvd hu)

/-- The count in a unit on the way is not farther from zero than the first or the last one. -/
lemma fits_countIn (h : middle.IsBetween u target) (hn : Word.Fits 64 n)
    (hfits : Word.Fits 64 (u.countIn n target.nanos)) : Word.Fits 64 (u.countIn n middle.nanos) := by
  rcases h with ⟨hu, -⟩ | ⟨htarget, -⟩
  · exact fits_countIn_of_nanos_le hn hu
  · exact hfits.tdiv_of_le target.nanos_pos htarget

end IsBetween

end TimeUnit
end TimeTable
