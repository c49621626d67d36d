import Mathlib.Tactic.Lemma
import TimeTable.Text.Utf8

namespace TimeTable.Utf8

variable {n k : Nat} {c : Char} {b : UInt8} {s : List UInt8}

lemma toNat_toUInt8 (h : n < 256) : n.toUInt8.toNat = n := by
  rw [Nat.toUInt8, UInt8.toNat_ofNat']
  omega

lemma isTail_iff : isTail b ↔ 0x80 ≤ b.toNat ∧ b.toNat < 0xC0 := by
  rw [isTail, Bool.and_eq_true, decide_eq_true_eq, decide_eq_true_eq, UInt8.le_iff_toNat_le,
    UInt8.lt_iff_toNat_lt]
  rfl

lemma isTail_tail (n : Nat) : isTail (0x80 + n % 64).toUInt8 := by
  rw [isTail_iff, toNat_toUInt8 (by omega)]
  omega

lemma toNat_tail (n : Nat) : (0x80 + n % 64).toUInt8.toNat % 64 = n % 64 := by
  rw [toNat_toUInt8 (by omega)]
  omega

lemma pair?_eq_none (h : 0xE0 ≤ n) (hn : n < 256) : pair? n.toUInt8 b = none := by
  rw [pair?, if_neg]
  simp only [Bool.and_eq_true, decide_eq_true_eq, UInt8.lt_iff_toNat_lt, toNat_toUInt8 hn]
  intro hlead
  exact absurd hlead.1.2 (Nat.not_lt.mpr h)

lemma triple?_eq_none {d : UInt8} (h : 0xF0 ≤ n) (hn : n < 256) : triple? n.toUInt8 b d = none := by
  rw [triple?, if_neg]
  simp only [Bool.and_eq_true, decide_eq_true_eq, UInt8.lt_iff_toNat_lt, toNat_toUInt8 hn]
  intro hlead
  exact absurd hlead.1.1.1.1.2 (Nat.not_lt.mpr h)

lemma pair?_encode (hlow : 0x80 ≤ n) (hhigh : n < 0x800) :
    pair? (0xC0 + n / 64).toUInt8 (0x80 + n % 64).toUInt8 = some (Char.ofNat n) := by
  have hlead : (0xC0 + n / 64).toUInt8.toNat = 0xC0 + n / 64 := toNat_toUInt8 (by omega)
  have hjoin : (0xC0 + n / 64) % 32 * 64 + n % 64 = n := by omega
  rw [pair?, if_pos, join, List.foldl_cons, List.foldl_nil, toNat_tail, hlead, hjoin]
  simp only [Bool.and_eq_true, decide_eq_true_eq, UInt8.le_iff_toNat_le, UInt8.lt_iff_toNat_lt, hlead,
    isTail_tail, and_true, UInt8.reduceToNat]
  omega

lemma triple?_encode (hlow : 0x800 ≤ n) (hhigh : n < 0x10000) (hvalid : n < 0xD800 ∨ 0xE000 ≤ n) :
    triple? (0xE0 + n / 4096).toUInt8 (0x80 + n / 64 % 64).toUInt8 (0x80 + n % 64).toUInt8 =
      some (Char.ofNat n) := by
  have hlead : (0xE0 + n / 4096).toUInt8.toNat = 0xE0 + n / 4096 := toNat_toUInt8 (by omega)
  have hjoin : ((0xE0 + n / 4096) % 16 * 64 + n / 64 % 64) * 64 + n % 64 = n := by omega
  rw [triple?, join, List.foldl_cons, List.foldl_cons, List.foldl_nil, toNat_tail, toNat_tail, hlead,
    hjoin, if_pos]
  simp only [Bool.and_eq_true, decide_eq_true_eq, UInt8.le_iff_toNat_le, UInt8.lt_iff_toNat_lt, hlead,
    isTail_tail, and_true, UInt8.reduceToNat, Bool.not_eq_true', Bool.and_eq_false_iff,
    decide_eq_false_iff_not]
  omega

lemma quad?_encode (hlow : 0x10000 ≤ n) (hhigh : n < 0x110000) :
    quad? (0xF0 + n / 262144).toUInt8 (0x80 + n / 4096 % 64).toUInt8 (0x80 + n / 64 % 64).toUInt8
      (0x80 + n % 64).toUInt8 = some (Char.ofNat n) := by
  have hlead : (0xF0 + n / 262144).toUInt8.toNat = 0xF0 + n / 262144 := toNat_toUInt8 (by omega)
  have hjoin : (((0xF0 + n / 262144) % 8 * 64 + n / 4096 % 64) * 64 + n / 64 % 64) * 64 + n % 64 = n := by
    omega
  rw [quad?, join, List.foldl_cons, List.foldl_cons, List.foldl_cons, List.foldl_nil, toNat_tail,
    toNat_tail, toNat_tail, hlead, hjoin, if_pos]
  simp only [Bool.and_eq_true, decide_eq_true_eq, UInt8.le_iff_toNat_le, UInt8.lt_iff_toNat_lt, hlead,
    isTail_tail, and_true, UInt8.reduceToNat]
  omega

section

variable {a b' b'' : UInt8} {before : Nat}

lemma decodeFrom_ascii (ha : a < 0x80) :
    decodeFrom before (a :: s) = (decodeFrom (before + 1) s).map (Char.ofNat a.toNat :: ·) := by
  rw [decodeFrom.eq_def before (a :: s)]
  exact if_pos ha

lemma decodeFrom_pair (ha : ¬a < 0x80) (h : pair? a b = some c) :
    decodeFrom before (a :: b :: s) = (decodeFrom (before + 2) s).map (c :: ·) := by
  rw [decodeFrom.eq_def before (a :: b :: s)]
  simp only [if_neg ha, h]

lemma decodeFrom_triple (ha : ¬a < 0x80) (hpair : pair? a b = none) (h : triple? a b b' = some c) :
    decodeFrom before (a :: b :: b' :: s) = (decodeFrom (before + 3) s).map (c :: ·) := by
  rw [decodeFrom.eq_def before (a :: b :: b' :: s)]
  simp only [if_neg ha, hpair, h]

lemma decodeFrom_quad (ha : ¬a < 0x80) (hpair : pair? a b = none) (htriple : triple? a b b' = none)
    (h : quad? a b b' b'' = some c) :
    decodeFrom before (a :: b :: b' :: b'' :: s) = (decodeFrom (before + 4) s).map (c :: ·) := by
  rw [decodeFrom.eq_def before (a :: b :: b' :: b'' :: s)]
  simp only [if_neg ha, hpair, htriple, h]

end

lemma toNat_valid (c : Char) : c.toNat < 0xD800 ∨ 0xE000 ≤ c.toNat ∧ c.toNat < 0x110000 := by
  rcases c.valid with h | ⟨h, h'⟩
  · exact .inl h
  · exact .inr ⟨Nat.succ_le_of_lt h, h'⟩

lemma not_lt_lead (h : 0x80 ≤ n) (hn : n < 256) : ¬n.toUInt8 < 0x80 := by
  rw [UInt8.lt_iff_toNat_lt, toNat_toUInt8 hn]
  exact Nat.not_lt.mpr h

/-- Behind the bytes of a character reading goes on. -/
lemma decodeFrom_encodeChar_append (before : Nat) (c : Char) (s : List UInt8) :
    decodeFrom before (encodeChar c ++ s) =
      (decodeFrom (before + (encodeChar c).length) s).map (c :: ·) := by
  have hvalid := toNat_valid c
  -- The cases are those of the encoder: one, two, three or four bytes.
  by_cases h1 : c.toNat < 0x80
  · have hbyte : c.toNat.toUInt8.toNat = c.toNat := toNat_toUInt8 (by omega)
    have hlead : c.toNat.toUInt8 < 0x80 := by
      rw [UInt8.lt_iff_toNat_lt, hbyte]
      exact h1
    simp only [encodeChar, if_pos h1]
    refine (decodeFrom_ascii hlead).trans ?_
    rw [hbyte, Char.ofNat_toNat]
    rfl
  by_cases h2 : c.toNat < 0x800
  · simp only [encodeChar, if_neg h1, if_pos h2]
    -- A longer form has a lead byte above those of the shorter ones, and none of these decodes it.
    refine decodeFrom_pair (not_lt_lead (by omega) (by omega)) ?_
    rw [pair?_encode (by omega) h2, Char.ofNat_toNat]
  by_cases h3 : c.toNat < 0x10000
  · simp only [encodeChar, if_neg h1, if_neg h2, if_pos h3]
    refine decodeFrom_triple (not_lt_lead (by omega) (by omega)) (pair?_eq_none (by omega) (by omega)) ?_
    rw [triple?_encode (by omega) h3 (by omega), Char.ofNat_toNat]
  · simp only [encodeChar, if_neg h1, if_neg h2, if_neg h3]
    refine decodeFrom_quad (not_lt_lead (by omega) (by omega)) (pair?_eq_none (by omega) (by omega))
      (triple?_eq_none (by omega) (by omega)) ?_
    rw [quad?_encode (by omega) (by omega), Char.ofNat_toNat]

lemma decodeFrom_encode (before : Nat) (s : List Char) : decodeFrom before (encode s) = .ok s := by
  induction s generalizing before with
  | nil => rw [encode_nil, decodeFrom]
  | cons c s ih => rw [encode_cons, decodeFrom_encodeChar_append, ih]; rfl

/-- The bytes of a text are read as the text. -/
@[simp] lemma decode_encode (s : List Char) : decode (encode s) = .ok s := decodeFrom_encode 0 s

@[simp] lemma encode_append (s t : List Char) : encode (s ++ t) = encode s ++ encode t :=
  List.flatMap_append

lemma encodeChar_ne_nil (c : Char) : encodeChar c ≠ [] := by
  rw [encodeChar]
  split
  · simp
  · split
    · simp
    · split <;> simp

lemma encode_eq_nil_iff {s : List Char} : encode s = [] ↔ s = [] := by
  cases s with
  | nil => simp
  | cons c s => simp [encodeChar_ne_nil]

/-- The bytes of a character that is none of ASCII are none of ASCII. -/
lemma le_of_mem_encodeChar (hc : 0x80 ≤ c.toNat) (hb : b ∈ encodeChar c) : 0x80 ≤ b.toNat := by
  have hvalid := toNat_valid c
  rw [encodeChar] at hb
  -- Lead bytes start at 0xC0 and the bytes that follow one lie between 0x80 and 0xBF.
  split at hb
  · omega
  · split at hb
    · simp only [List.mem_cons, List.not_mem_nil, or_false] at hb
      rcases hb with rfl | rfl
      all_goals rw [toNat_toUInt8 (by omega)]; omega
    · split at hb
      · simp only [List.mem_cons, List.not_mem_nil, or_false] at hb
        rcases hb with rfl | rfl | rfl
        all_goals rw [toNat_toUInt8 (by omega)]; omega
      · simp only [List.mem_cons, List.not_mem_nil, or_false] at hb
        rcases hb with rfl | rfl | rfl | rfl
        all_goals rw [toNat_toUInt8 (by omega)]; omega

lemma encodeChar_ascii (hc : c.toNat < 0x80) : encodeChar c = [c.toNat.toUInt8] := by
  rw [encodeChar]
  exact if_pos hc

/-- An ASCII byte among those of a character is the number of the character. -/
lemma mem_encodeChar_ascii (hb : b.toNat < 0x80) : b ∈ encodeChar c ↔ c.toNat = b.toNat := by
  by_cases hc : c.toNat < 0x80
  · rw [encodeChar_ascii hc, List.mem_singleton, ← UInt8.toNat_inj, toNat_toUInt8 (by omega)]
    exact eq_comm
  · constructor
    · intro hmem
      have hle := le_of_mem_encodeChar (by omega) hmem
      omega
    · omega

end TimeTable.Utf8
