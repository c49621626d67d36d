import TimeTable.Csv.Reader
import TimeTable.Proofs.Pattern.Written

namespace TimeTable.Csv

variable {c : Char} {s more ds : List Char}

lemma readBoolean?_text (v : Bool) : readBoolean? (Scalar.boolean v).text = some v := by
  cases v with
  | true => rfl
  | false => rfl

/-- The characters that a number or a date can begin with. -/
def BeginsNumber (c : Char) : Prop := Numeral.isDigit c ∨ c = '-' ∨ c = '+'

lemma BeginsNumber.le (h : BeginsNumber c) : c.toNat ≤ 57 := by
  rcases h with h | rfl | rfl
  · rw [Numeral.isDigit, Bool.and_eq_true, decide_eq_true_eq, decide_eq_true_eq] at h
    exact h.2
  · decide
  · decide

/-- The words that are read begin with letters. -/
lemma BeginsNumber.map_lowerAscii_ne (h : BeginsNumber c) {c' : Char} (hc' : 57 < c'.toNat)
    {word : List Char} : (c :: s).map Text.lowerAscii ≠ c' :: word := by
  have hle := h.le
  have hlower : Text.lowerAscii c = c := by
    rw [Text.lowerAscii, if_neg]
    rintro ⟨hcapital, -⟩
    have hA : 65 ≤ c.toNat := hcapital
    omega
  intro heq
  rw [List.map_cons, hlower] at heq
  obtain rfl := (List.cons.inj heq).1
  omega

lemma readBoolean?_eq_none (h : BeginsNumber c) : readBoolean? (c :: s) = none := by
  rw [readBoolean?]
  split
  · next hword =>
    have hlist := congrArg String.toList hword
    rw [String.toList_ofList] at hlist
    exact absurd hlist (h.map_lowerAscii_ne (by decide))
  · next hword =>
    have hlist := congrArg String.toList hword
    rw [String.toList_ofList] at hlist
    exact absurd hlist (h.map_lowerAscii_ne (by decide))
  · rfl

lemma readInt?_text (v : Int64) : readInt? (Scalar.int64 v).text = some v := by
  rw [readInt?, Scalar.text, Numeral.readInt?_ofInt, Option.bind_some, Word.int64?_toInt]

lemma exists_text_int64_eq_cons (v : Int64) :
    ∃ c s, (Scalar.int64 v).text = c :: s ∧ BeginsNumber c := by
  rw [Scalar.text, Numeral.ofInt]
  split
  · exact ⟨_, _, rfl, .inr (.inl rfl)⟩
  · obtain ⟨c, s, hdigits, hc, -⟩ := Numeral.exists_eq_cons_of_all_isDigit
      (Numeral.ofNat_ne_nil v.toInt.natAbs) (Numeral.all_isDigit_ofNat v.toInt.natAbs)
    exact ⟨c, s, hdigits, .inl hc⟩

/-- A text that begins like a date: digits with a sign or without, then a dash. -/
inductive BeginsDate : List Char → Prop
  | plain {ds more : List Char} (hne : ds ≠ []) (hds : ds.all Numeral.isDigit) :
    BeginsDate (ds ++ '-' :: more)
  | signed {sign : Char} {ds more : List Char} (hsign : sign = '-' ∨ sign = '+') (hne : ds ≠ [])
    (hds : ds.all Numeral.isDigit) : BeginsDate (sign :: (ds ++ '-' :: more))

lemma beginsDate_dateText (day : Int) (rest : List Char) :
    BeginsDate (DateTime.dateText day ++ rest) := by
  rw [DateTime.dateText]
  simp only [List.append_assoc, List.cons_append]
  rcases DateTime.yearText_cases (Calendar.dateOf day).year with ⟨-, -, htext⟩ | ⟨-, htext⟩ | ⟨-, htext⟩
  · rw [htext]
    exact .plain (Numeral.zeroPadded_ne_nil _ _) (Numeral.all_isDigit_zeroPadded _ _)
  · rw [htext]
    exact .signed (.inl rfl) (Numeral.zeroPadded_ne_nil _ _) (Numeral.all_isDigit_zeroPadded _ _)
  · rw [htext]
    exact .signed (.inr rfl) (Numeral.zeroPadded_ne_nil _ _) (Numeral.all_isDigit_zeroPadded _ _)

/-- There is a dash behind the first character of a date. -/
lemma BeginsDate.exists_eq_cons (h : BeginsDate s) :
    ∃ c s', s = c :: s' ∧ BeginsNumber c ∧ '-' ∈ s' := by
  cases h with
  | @plain ds more hne hds =>
    obtain ⟨c, ds, rfl, hc, -⟩ := Numeral.exists_eq_cons_of_all_isDigit hne hds
    exact ⟨c, _, rfl, .inl hc, by simp⟩
  | @signed sign ds more hsign hne hds => exact ⟨sign, _, rfl, .inr hsign, by simp⟩

lemma BeginsDate.readBoolean? (h : BeginsDate s) : readBoolean? s = none := by
  obtain ⟨c, s', rfl, hc, -⟩ := h.exists_eq_cons
  exact readBoolean?_eq_none hc

lemma BeginsDate.readInt? (h : BeginsDate s) : readInt? s = none := by
  obtain ⟨c, s', rfl, -, hdash⟩ := h.exists_eq_cons
  rw [Csv.readInt?, Numeral.readInt?_eq_none hdash (by decide), Option.bind_none]

/-- Behind digits a dash ends a floating-point number. -/
lemma readUnsigned?_eq_none (negative : Bool) (hne : ds ≠ []) (hds : ds.all Numeral.isDigit) :
    Binary64.readUnsigned? negative (ds ++ '-' :: more) = none := by
  have htake : (ds ++ '-' :: more).takeWhile Numeral.isDigit = ds := by
    rw [List.takeWhile_append_of_pos (List.all_eq_true.mp hds),
      List.takeWhile_cons_of_neg (by decide), List.append_nil]
  have hdrop : (ds ++ '-' :: more).dropWhile Numeral.isDigit = '-' :: more := by
    rw [List.dropWhile_append_of_pos (List.all_eq_true.mp hds), List.dropWhile_cons_of_neg (by decide)]
  -- A number ends at the sign, and a decimal is read to its end: what is left is no exponent.
  have hdecimal : Binary64.readDecimal? negative (ds ++ '-' :: more) = none := by
    have hexponent : Binary64.readExponent? ('-' :: more) = none := by
      rw [Binary64.readExponent?, if_neg (by decide)]
    simp [Binary64.readDecimal?, htake, hdrop, hexponent]
  obtain ⟨c, ds, rfl, hdigit, -⟩ := Numeral.exists_eq_cons_of_all_isDigit hne hds
  have hc : BeginsNumber c := .inl hdigit
  rw [List.cons_append] at hdecimal ⊢
  rw [Binary64.readUnsigned?, if_neg, if_neg (hc.map_lowerAscii_ne (by decide)), hdecimal]
  rintro (hinf | hinfinity)
  · exact hc.map_lowerAscii_ne (by decide) hinf
  · exact hc.map_lowerAscii_ne (by decide) hinfinity

lemma read?_float_of_isDigit (h : Numeral.isDigit c) :
    Binary64.read? (c :: s) = Binary64.readUnsigned? false (c :: s) := by
  rw [Binary64.read?.eq_def]
  split
  · next hcons => exact absurd hcons (Numeral.cons_ne_of_isDigit h (by decide))
  · next hcons => exact absurd hcons (Numeral.cons_ne_of_isDigit h (by decide))
  · rfl

lemma BeginsDate.read?_float (h : BeginsDate s) : Binary64.read? s = none := by
  cases h with
  | @plain ds more hne hds =>
    obtain ⟨c, ds, rfl, hc, -⟩ := Numeral.exists_eq_cons_of_all_isDigit hne hds
    rw [List.cons_append, read?_float_of_isDigit hc, ← List.cons_append,
      readUnsigned?_eq_none false hne hds]
  | @signed sign ds more hsign hne hds =>
    rcases hsign with rfl | rfl
    · exact readUnsigned?_eq_none true hne hds
    · exact readUnsigned?_eq_none false hne hds

lemma text_date {day : Int32} (hrange : Calendar.inRange day.toInt) :
    (Scalar.date day).text = DateTime.dateText day.toInt := by
  rw [Scalar.text, Scalar.dateText, Calendar.check, if_pos hrange]

lemma readDate?_text {day : Int32} (hrange : Calendar.inRange day.toInt) :
    readDate? (Scalar.date day).text = some day := by
  rw [readDate?, text_date hrange, datePatterns, List.findSome?_cons, Pattern.readDay?_dateText hrange]
  exact congrArg some (Int32.ofInt_toInt day)

section

variable {t : DateTime}

lemma readDate?_dateTimeText (hrange : Calendar.inRange t.day) : readDate? t.text = none := by
  obtain ⟨hdashes, hslashes, hmonth, hday⟩ := Pattern.readDay?_dateText_append hrange ' ' t.timeText
  rw [readDate?, DateTime.text, datePatterns]
  simp only [List.findSome?_cons, List.findSome?_nil, hdashes, hslashes, hmonth, hday, Option.map_none]

lemma readDateTime?_text (hrange : Calendar.inRange t.day) (hsecond : t.second < 86400)
    (hnano : t.nano < 1000000000) : readDateTime? none t.text = some t := by
  rw [readDateTime?, Option.toList_none, List.nil_append, datetimePatterns, List.findSome?_cons,
    Pattern.readDateTime?_text hrange hsecond hnano]
  rfl

end

end TimeTable.Csv
