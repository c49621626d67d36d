import Mathlib.Algebra.Group.Nat.Defs
import Mathlib.Data.List.Basic
import Mathlib.Data.List.TakeWhile
import Mathlib.Tactic.Lemma
import TimeTable.Text.Blank
import TimeTable.Text.Numeral

namespace TimeTable

namespace Text

lemma trim_eq_self {s : List Char} (hhead : ∀ c ∈ s.head?, isBlank c = false)
    (hlast : ∀ c ∈ s.getLast?, isBlank c = false) : trim s = s := by
  have hstart : trimStart s = s := by
    cases s with
    | nil => rfl
    | cons c s => exact List.dropWhile_cons_of_neg (Bool.not_eq_true _ ▸ hhead c rfl)
  rw [trim, hstart, trimEnd]
  cases hs : s.reverse with
  | nil => rw [List.dropWhile_nil, List.reverse_nil, List.reverse_eq_nil_iff.mp hs]
  | cons c t =>
    have hc : isBlank c = false := hlast c (by rw [← List.head?_reverse, hs]; rfl)
    rw [List.dropWhile_cons_of_neg (Bool.not_eq_true _ ▸ hc), ← hs, List.reverse_reverse]

/-- Trimming leaves nothing of a text if all of it is blank. -/
lemma trim_ne_nil_iff {s : List Char} : trim s ≠ [] ↔ ∃ c ∈ s, isBlank c = false := by
  have hnil : trim s = [] ↔ ∀ c ∈ s, isBlank c = true := by
    rw [trim, trimEnd, List.reverse_eq_nil_iff, List.dropWhile_eq_nil_iff]
    constructor
    · intro h c hc
      rw [← List.takeWhile_append_dropWhile (p := isBlank) (l := s)] at hc
      rcases List.mem_append.mp hc with hc | hc
      · exact List.mem_takeWhile_imp hc
      · exact h c (List.mem_reverse.mpr hc)
    · intro h c hc
      exact h c ((List.dropWhile_sublist isBlank).mem (List.mem_reverse.mp hc))
  simp [hnil]

/-- A text without blank characters. -/
def Visible (s : List Char) : Prop := ∀ c ∈ s, isBlank c = false

lemma Visible.append {s t : List Char} (hs : Visible s) (ht : Visible t) : Visible (s ++ t) :=
  fun c hc => (List.mem_append.mp hc).elim (hs c) (ht c)

lemma Visible.cons {c : Char} {s : List Char} (hc : isBlank c = false) (hs : Visible s) :
    Visible (c :: s) := by
  intro c' hc'
  rcases List.mem_cons.mp hc' with rfl | hmem
  · exact hc
  · exact hs c' hmem

/-- Blanks inside a text are not trimmed. -/
lemma trim_of_visible_ends {s middle t : List Char} (hs : Visible s) (hne : s ≠ []) (ht : Visible t)
    (hne' : t ≠ []) : trim (s ++ middle ++ t) = s ++ middle ++ t := by
  refine trim_eq_self (fun c hc => ?_) fun c hc => ?_
  · rw [List.append_assoc, List.head?_append_of_ne_nil s hne] at hc
    exact hs c (List.mem_of_mem_head? hc)
  · rw [List.getLast?_append_of_ne_nil _ hne'] at hc
    exact ht c (List.mem_of_getLast? hc)

lemma trim_of_visible {s : List Char} (hs : Visible s) : trim s = s :=
  trim_eq_self (fun c hc => hs c (List.mem_of_mem_head? hc)) fun c hc => hs c (List.mem_of_getLast? hc)

lemma trimStart_cons {c : Char} (hc : isBlank c = false) (s : List Char) :
    trimStart (c :: s) = c :: s :=
  List.dropWhile_cons_of_neg (Bool.not_eq_true _ ▸ hc)

end Text

namespace Numeral

variable {c : Char} {s : List Char} {n width : Nat}

lemma isBlank_of_isDigit (h : isDigit c) : Text.isBlank c = false := by
  rw [isDigit, Bool.and_eq_true, decide_eq_true_eq, decide_eq_true_eq] at h
  simp only [Text.isBlank, Bool.or_eq_false_iff, Bool.and_eq_false_iff, decide_eq_false_iff_not,
    beq_eq_false_iff_ne]
  omega

lemma visible_of_all_isDigit (h : s.all isDigit) : Text.Visible s :=
  fun _ hc => isBlank_of_isDigit (List.all_eq_true.mp h _ hc)

lemma visible_ofInt (n : Int) : Text.Visible (ofInt n) := by
  rw [ofInt]
  split
  · exact .cons (by decide) (visible_of_all_isDigit (all_isDigit_ofNat _))
  · exact visible_of_all_isDigit (all_isDigit_ofNat _)

lemma exists_eq_cons_of_all_isDigit (hne : s ≠ []) (h : s.all isDigit) :
    ∃ c s', s = c :: s' ∧ isDigit c ∧ s'.all isDigit := by
  obtain ⟨c, s', rfl⟩ := List.exists_cons_of_ne_nil hne
  rw [List.all_cons, Bool.and_eq_true] at h
  exact ⟨c, s', rfl, h⟩

lemma all_isDigit_zeroPadded (width n : Nat) : (zeroPadded width n).all isDigit := by
  rw [zeroPadded, padStart, List.all_append, all_isDigit_ofNat, Bool.and_true, List.all_replicate]
  split <;> rfl

lemma visible_zeroPadded (width n : Nat) : Text.Visible (zeroPadded width n) :=
  visible_of_all_isDigit (all_isDigit_zeroPadded width n)

lemma zeroPadded_ne_nil (width n : Nat) : zeroPadded width n ≠ [] :=
  List.append_ne_nil_of_right_ne_nil _ (ofNat_ne_nil n)

lemma trimStart_zeroPadded (width n : Nat) (rest : List Char) :
    Text.trimStart (zeroPadded width n ++ rest) = zeroPadded width n ++ rest := by
  obtain ⟨c, s, hdigits, hc, -⟩ :=
    exists_eq_cons_of_all_isDigit (zeroPadded_ne_nil width n) (all_isDigit_zeroPadded width n)
  rw [hdigits, List.cons_append, Text.trimStart_cons (isBlank_of_isDigit hc)]

lemma foldl_zeros (k : Nat) : (List.replicate k '0').foldl (fun n c => n * 10 + value c) 0 = 0 := by
  induction k with
  | zero => rfl
  | succ k ih => exact ih

/-- The zeros in front of a number leave it alone. -/
@[simp] lemma toNat_zeroPadded (width n : Nat) : toNat (zeroPadded width n) = n := by
  rw [toNat, zeroPadded, padStart, List.foldl_append, foldl_zeros]
  exact toNat_ofNat n

lemma length_ofNat_le (h : n < 10 ^ (width + 1)) : (ofNat n).length ≤ width + 1 := by
  induction width generalizing n with
  | zero =>
    rw [ofNat, if_pos (by omega)]
    exact Nat.le_refl 1
  | succ width ih =>
    rw [ofNat]
    split
    · exact Nat.le_add_left 1 _
    · rw [List.length_append]
      exact Nat.succ_le_succ (ih (by omega))

lemma length_zeroPadded (h : n < 10 ^ (width + 1)) : (zeroPadded (width + 1) n).length = width + 1 := by
  have hle := length_ofNat_le h
  rw [zeroPadded, padStart, List.length_append, List.length_replicate]
  omega

lemma readNat?_eq_some_iff : readNat? s = some n ↔ s ≠ [] ∧ s.all isDigit ∧ n = toNat s := by
  rw [readNat?, Option.ite_none_left_eq_some, Option.some.injEq, Bool.or_eq_true, not_or,
    List.isEmpty_iff, Bool.not_eq_true', Bool.not_eq_false, and_assoc, eq_comm (a := n)]

lemma readCount?_eq_some_iff : readCount? s = some n ↔ ∃ digits, (s = digits ∨ s = '+' :: digits) ∧
    digits ≠ [] ∧ digits.all isDigit ∧ n = toNat digits := by
  rw [readCount?.eq_def]
  split
  · next rest =>
    rw [readNat?_eq_some_iff]
    constructor
    · intro h
      exact ⟨rest, .inr rfl, h⟩
    -- A plus sign is no digit, so it can be only the sign.
    · rintro ⟨digits, rfl | hplus, h⟩
      · have hdigit : isDigit '+' = true := List.all_eq_true.mp h.2.1 '+' List.mem_cons_self
        cases hdigit
      · rw [(List.cons.inj hplus).2]
        exact h
  · next hplus =>
    rw [readNat?_eq_some_iff]
    constructor
    · intro h
      exact ⟨s, .inl rfl, h⟩
    · rintro ⟨digits, rfl | heq, h⟩
      · exact h
      · exact absurd heq (hplus digits)

lemma readNat?_eq_none (h : c ∈ s) (hc : isDigit c = false) : readNat? s = none := by
  have hall : s.all isDigit = false := List.all_eq_false.mpr ⟨c, h, by simp [hc]⟩
  rw [readNat?, hall]
  exact if_pos (Bool.or_true _)

/-- A text that begins with a digit begins with nothing else. -/
lemma cons_ne_of_isDigit {d : Char} {t : List Char} (h : isDigit c) (hd : isDigit d = false) :
    c :: s ≠ d :: t := by
  intro hcons
  rw [(List.cons.inj hcons).1, hd] at h
  exact absurd h Bool.false_ne_true

lemma readInt?_of_isDigit (h : isDigit c) : readInt? (c :: s) = (readNat? (c :: s)).map Int.ofNat := by
  rw [readInt?.eq_def]
  split
  · next hcons => exact absurd hcons (cons_ne_of_isDigit h (by decide))
  · next hcons => exact absurd hcons (cons_ne_of_isDigit h (by decide))
  · cases readNat? (c :: s) with
    | none => rfl
    | some n => rfl

/-- An integer that was written is read back. -/
lemma readInt?_ofInt (n : Int) : readInt? (ofInt n) = some n := by
  rw [ofInt]
  split
  · next hneg =>
    rw [readInt?, readNat?_ofNat]
    change some (-(n.natAbs : Int)) = some n
    rw [Option.some.injEq]
    omega
  · next hpos =>
    obtain ⟨c, s, hdigits, hc, -⟩ :=
      exists_eq_cons_of_all_isDigit (ofNat_ne_nil n.natAbs) (all_isDigit_ofNat n.natAbs)
    rw [hdigits, readInt?_of_isDigit hc, ← hdigits, readNat?_ofNat, Option.map_some, Option.some.injEq]
    exact Int.natAbs_of_nonneg (Int.not_lt.mp hpos)

/-- Behind its first character an integer has digits only. -/
lemma readInt?_eq_none {c' : Char} (h : c' ∈ s) (hc : isDigit c' = false) :
    readInt? (c :: s) = none := by
  rw [readInt?.eq_def]
  split
  · next hcons =>
    obtain rfl := (List.cons.inj hcons).2
    rw [readNat?_eq_none h hc]
    rfl
  · next hcons =>
    obtain rfl := (List.cons.inj hcons).2
    rw [readNat?_eq_none h hc]
    rfl
  · rw [readNat?_eq_none (List.mem_cons_of_mem _ h) hc]
    rfl

end Numeral
end TimeTable
