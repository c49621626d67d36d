/-!
# Machine words

Counts of ticks and of days are machine words. Arithmetic on them is done on integers, and a result
is taken back into a word if it fits.
-/

namespace TimeTable

/-- The 64-bit word of an integer, if it fits. -/
def Word.int64? (n : Int) : Option Int64 :=
  if -0x8000000000000000 ≤ n ∧ n < 0x8000000000000000 then some (Int64.ofInt n) else none

theorem Word.int64?_eq_some_iff {n : Int} {v : Int64} :
    Word.int64? n = some v ↔ v.toInt = n := by
  unfold Word.int64?
  split
  · next h =>
    simp only [Option.some.injEq]
    constructor
    · rintro rfl
      exact Int64.toInt_ofInt_of_le (by omega) (by omega)
    · rintro rfl
      exact Int64.ofInt_toInt v
  · next h =>
    simp only [reduceCtorEq, false_iff]
    rintro rfl
    have hlow := Int64.le_toInt v
    have hhigh := Int64.toInt_lt v
    omega

@[simp] theorem Word.int64?_toInt (v : Int64) : Word.int64? v.toInt = some v :=
  Word.int64?_eq_some_iff.2 rfl

end TimeTable
