import TimeTable.Pattern.Read
import TimeTable.Proofs.Calendar.Dates
import TimeTable.Proofs.Text.Numeral

/-!
# Written dates read by a pattern

The written form of a date, or of a date and time, is read back by the pattern that has its parts in its
order. The parts are followed one after the other: each takes its digits off the text, which end where
the next part begins, and adds a field.
-/

namespace TimeTable

/-! ### Written years -/

namespace DateTime

/-- A year is four digits, or a sign and any number of digits. -/
lemma yearText_cases (year : Int) :
    (0 ≤ year ∧ year < 10000 ∧ yearText year = Numeral.zeroPadded 4 year.toNat) ∨
      (year < 0 ∧ yearText year = '-' :: Numeral.zeroPadded 4 year.natAbs) ∨
      (0 ≤ year ∧ yearText year = '+' :: Numeral.zeroPadded 4 year.natAbs) := by
  rw [yearText]
  split
  · next h => exact .inl ⟨h.1, by omega, rfl⟩
  · split
    · next h => exact .inr (.inl ⟨h, rfl⟩)
    · next h => exact .inr (.inr ⟨by omega, rfl⟩)

end DateTime

namespace Pattern

/-! ### Digits -/

section

variable {ds rest : List Char} {width : Nat}

/-- Digits are taken off a text up to the given number, or up to what is no digit. -/
lemma digits?_append (hds : ds.all Numeral.isDigit) (hne : ds ≠ []) (hwidth : ds.length ≤ width)
    (hend : ds.length = width ∨ ∀ c ∈ rest.head?, Numeral.isDigit c = false) :
    digits? width (ds ++ rest) = some ((Numeral.toNat ds : Int), rest) := by
  -- As many digits as are allowed are looked at, so the number ends with them or before something else.
  have htake : ((ds ++ rest).take width).takeWhile Numeral.isDigit = ds := by
    have hmore : (rest.take (width - ds.length)).takeWhile Numeral.isDigit = [] := by
      rcases hend with hfull | hhead
      · rw [hfull, Nat.sub_self, List.take_zero, List.takeWhile_nil]
      · cases rest with
        | nil => rw [List.take_nil, List.takeWhile_nil]
        | cons c rest =>
          cases width - ds.length with
          | zero => rw [List.take_zero, List.takeWhile_nil]
          | succ k =>
            rw [List.take_succ_cons]
            exact List.takeWhile_cons_of_neg (by simp [hhead c rfl])
    rw [List.take_append, List.take_of_length_le hwidth,
      List.takeWhile_append_of_pos (List.all_eq_true.mp hds), hmore, List.append_nil]
  simp only [digits?, htake, List.isEmpty_eq_false_iff.mpr hne, Bool.false_eq_true, if_false,
    List.drop_left]

lemma exactlyDigits?_zeroPadded {n : Nat} (h : n < 10 ^ (width + 1)) :
    digits? (width + 1) (Numeral.zeroPadded (width + 1) n ++ rest) = some ((n : Int), rest) := by
  have hlength := Numeral.length_zeroPadded h
  rw [digits?_append (Numeral.all_isDigit_zeroPadded _ _) (Numeral.zeroPadded_ne_nil _ _)
    (Nat.le_of_eq hlength) (.inl hlength), Numeral.toNat_zeroPadded]

end

lemma yearNumber?_of_isDigit {c : Char} (h : Numeral.isDigit c) (width : Nat) (s : List Char) :
    yearNumber? width (c :: s) = digits? width (c :: s) := by
  rw [yearNumber?.eq_def]
  split
  · next hcons => exact absurd hcons (Numeral.cons_ne_of_isDigit h (by decide))
  · next hcons => exact absurd hcons (Numeral.cons_ne_of_isDigit h (by decide))
  · rfl

/-- A year is read up to what follows it, if that is no digit. -/
lemma yearNumber?_yearText (year : Int) {c : Char} (hc : Numeral.isDigit c = false) (rest : List Char) :
    yearNumber? 4 (DateTime.yearText year ++ c :: rest) = some (year, c :: rest) := by
  have hsigned : ∀ n : Nat, digits? (Numeral.zeroPadded 4 n ++ c :: rest).length
      (Numeral.zeroPadded 4 n ++ c :: rest) = some ((n : Int), c :: rest) := by
    intro n
    have hlength : (Numeral.zeroPadded 4 n).length ≤ (Numeral.zeroPadded 4 n ++ c :: rest).length := by
      rw [List.length_append]
      exact Nat.le_add_right _ _
    have hend : ∀ c' ∈ (c :: rest).head?, Numeral.isDigit c' = false := by
      rintro c' ⟨⟩
      exact hc
    rw [digits?_append (Numeral.all_isDigit_zeroPadded 4 n) (Numeral.zeroPadded_ne_nil 4 n) hlength
      (.inr hend), Numeral.toNat_zeroPadded]
  -- A year of four digits is read as it stands; any other one has a sign and is read to its last digit.
  rcases DateTime.yearText_cases year with ⟨hlow, hhigh, htext⟩ | ⟨hneg, htext⟩ | ⟨hpos, htext⟩
  · obtain ⟨first, ds, hds, hfirst, -⟩ := Numeral.exists_eq_cons_of_all_isDigit
      (Numeral.zeroPadded_ne_nil 4 year.toNat) (Numeral.all_isDigit_zeroPadded 4 year.toNat)
    rw [htext, hds, List.cons_append, yearNumber?_of_isDigit hfirst, ← List.cons_append, ← hds,
      exactlyDigits?_zeroPadded (by omega), Int.toNat_of_nonneg hlow]
  · rw [htext, List.cons_append, yearNumber?, hsigned, Option.map_some, Option.some.injEq,
      Prod.mk.injEq]
    exact ⟨by omega, rfl⟩
  · rw [htext, List.cons_append, yearNumber?, hsigned, Int.natAbs_of_nonneg hpos]

/-! ### Fields -/

/-- The fields with the given values, the first one of a field holding. -/
def Fields.of (values : List (Field × Int)) : Fields := fun field =>
  (values.find? fun value => value.1 = field).map Prod.snd

lemma Fields.put?_of {values : List (Field × Int)} {field : Field} {n : Int} (hadmits : field.admits n)
    (hnew : ∀ value ∈ values, value.1 ≠ field) :
    (Fields.of values).put? field n = some (.of ((field, n) :: values)) := by
  have hnone : Fields.of values field = none := by
    rw [Fields.of, List.find?_eq_none.mpr (fun value hvalue => by simpa using hnew value hvalue)]
    rfl
  rw [put?, if_pos hadmits, hnone]
  refine congrArg some (funext fun f => ?_)
  rw [Fields.of, Fields.of, List.find?_cons]
  by_cases hf : f = field
  · simp [hf]
  · simp [hf, Ne.symm hf]

/-! ### Items -/

section

variable {fields fields' : Fields} {s rest : List Char} {part : Part} {pad : Pad} {n : Int} {c : Char}

lemma read?_number (hblank : Text.trimStart s = s) (hnumber : part.number? s = some (n, rest))
    (hput : part.put? fields n = some fields') :
    Item.read? (.number part pad) (fields, s) = some (fields', rest) := by
  simp only [Item.read?, Item.readPart?, hblank, hnumber, hput, Option.bind_eq_bind, Option.bind_some]

/-- A part of two digits. -/
lemma read?_twoDigits {k : Nat} (hpart : ∀ s, part.number? s = digits? 2 s) (hk : k < 100)
    (hput : part.put? fields k = some fields') :
    Item.read? (.number part pad) (fields, Numeral.zeroPadded 2 k ++ rest) = some (fields', rest) :=
  read?_number (Numeral.trimStart_zeroPadded _ _ _) ((hpart _).trans (exactlyDigits?_zeroPadded hk)) hput

lemma read?_literal : Item.read? (.literal c) (fields, c :: s) = some (fields, s) :=
  if_pos rfl

lemma read?_blank (hs : Text.trimStart s = s) :
    Item.read? (.blank c) (fields, ' ' :: s) = some (fields, s) :=
  congrArg (fun rest => some (fields, rest)) hs

/-- That items take something off a text, one after the other. -/
def Takes (items : List Item) (state state' : State) : Prop :=
  items.foldlM (fun state item => Item.read? item state) state = some state'

namespace Takes

variable {item : Item} {items items' : List Item} {state state' state'' : State}

lemma nil : Takes [] state state := rfl

lemma cons (h : Item.read? item state = some state') (h' : Takes items state' state'') :
    Takes (item :: items) state state'' := by
  rw [Takes, List.foldlM_cons, h]
  exact h'

lemma append (h : Takes items state state') (h' : Takes items' state' state'') :
    Takes (items ++ items') state state'' := by
  rw [Takes, List.foldlM_append, h]
  exact h'

lemma read? {s : List Char} (h : Takes items (Fields.empty, s) (fields, [])) :
    read? items s = some fields := by
  rw [Takes] at h
  rw [Pattern.read?, h]

end Takes

end

/-! ### Dates -/

/-- The items of a date with dashes between its parts. -/
def dateItems : List Item :=
  [zeros .year, .literal '-', zeros .month, .literal '-', zeros .day]

def dateFields (day : Int) : List (Field × Int) :=
  [(.day, (Calendar.dateOf day).day), (.month, (Calendar.dateOf day).month),
    (.year, Calendar.yearOf day)]

lemma parse?_date : parse? "%Y-%m-%d".toList = some dateItems := by
  decide +kernel

variable {day : Int}

/-- The fields of a date have values that they may have. -/
lemma admits_dateFields (hrange : Calendar.inRange day) {field : Field} {n : Int}
    (hvalue : (field, n) ∈ dateFields day) : field.admits n := by
  obtain ⟨-, hmonth, hmonth', hday, -, -⟩ := Calendar.dateOf_spec day
  have hday' := Calendar.day_dateOf_le day
  have hyear := Calendar.natAbs_yearOf_lt hrange
  simp only [dateFields, List.mem_cons, List.not_mem_nil, or_false, Prod.mk.injEq] at hvalue
  rcases hvalue with ⟨rfl, rfl⟩ | ⟨rfl, rfl⟩ | ⟨rfl, rfl⟩ <;>
    simp only [Field.admits, Bool.and_eq_true, decide_eq_true_eq] <;> omega

/-- A year begins with a sign or a digit, so nothing of it is trimmed. -/
lemma trimStart_yearText (year : Int) (rest : List Char) :
    Text.trimStart (DateTime.yearText year ++ rest) = DateTime.yearText year ++ rest := by
  rcases DateTime.yearText_cases year with ⟨-, -, htext⟩ | ⟨-, htext⟩ | ⟨-, htext⟩
  · rw [htext, Numeral.trimStart_zeroPadded]
  · rw [htext, List.cons_append, Text.trimStart_cons (by decide)]
  · rw [htext, List.cons_append, Text.trimStart_cons (by decide)]

/-- A written date is taken off a text, and its fields are those of the day. -/
lemma takes_dateText (hrange : Calendar.inRange day) (rest : List Char) :
    Takes dateItems (Fields.empty, DateTime.dateText day ++ rest) (.of (dateFields day), rest) := by
  obtain ⟨hyear, -, hmonth, -, -, -⟩ := Calendar.dateOf_spec day
  have hday := Calendar.day_dateOf_le day
  have htext : DateTime.dateText day ++ rest = DateTime.yearText (Calendar.yearOf day) ++ '-' ::
      (Numeral.zeroPadded 2 (Calendar.dateOf day).month ++ '-' ::
        (Numeral.zeroPadded 2 (Calendar.dateOf day).day ++ rest)) := by
    simp only [DateTime.dateText, hyear, List.append_assoc, List.cons_append]
  have hputYear : (Fields.of []).put? .year (Calendar.yearOf day) =
      some (.of [(.year, Calendar.yearOf day)]) :=
    Fields.put?_of (admits_dateFields hrange (by simp [dateFields])) (by simp)
  have hputMonth : (Fields.of [(.year, Calendar.yearOf day)]).put? .month (Calendar.dateOf day).month =
      some (.of [(.month, (Calendar.dateOf day).month), (.year, Calendar.yearOf day)]) :=
    Fields.put?_of (admits_dateFields hrange (by simp [dateFields])) (by simp)
  have hputDay : (Fields.of [(.month, (Calendar.dateOf day).month), (.year, Calendar.yearOf day)]).put?
      .day (Calendar.dateOf day).day = some (.of (dateFields day)) :=
    Fields.put?_of (admits_dateFields hrange (by simp [dateFields])) (by simp)
  rw [htext]
  exact .cons (read?_number (trimStart_yearText _ _) (yearNumber?_yearText _ (by decide) _) hputYear)
    (.cons read?_literal (.cons (read?_twoDigits (fun _ => rfl) (by omega) hputMonth)
      (.cons read?_literal (.cons (read?_twoDigits (fun _ => rfl) (by omega) hputDay) .nil))))

lemma Fields.of_append {values values' : List (Field × Int)} {field : Field}
    (h : ∀ value ∈ values, value.1 ≠ field) : Fields.of (values ++ values') field =
      Fields.of values' field := by
  rw [Fields.of, Fields.of, List.find?_append,
    List.find?_eq_none.mpr (fun value hvalue => by simpa using h value hvalue), Option.none_or]

/-- The day that the fields of a date amount to, whatever other fields were read. -/
lemma day?_of_dateFields {fields : Fields} (hrange : Calendar.inRange day)
    (h : ∀ field ∈ Field.ofDate, fields field = Fields.of (dateFields day) field) :
    fields.day? = some day := by
  have hyear : fields .year = some (Calendar.yearOf day) := h .year (by decide)
  have hmonth : fields .month = some ((Calendar.dateOf day).month : Int) := h .month (by decide)
  have hday : fields .day = some ((Calendar.dateOf day).day : Int) := h .day (by decide)
  -- The day has to be found again from year and month, and has to agree with all fields at once.
  have hcandidate : fields.candidate (some (Calendar.yearOf day)) none = .ok day := by
    rw [Fields.candidate.eq_def, hmonth, hday, ← (Calendar.dateOf_spec day).1]
    exact congrArg orImpossible (Calendar.dayOf?_dateOf hrange)
  have hagree : fields.agree day := by
    rw [Fields.agree, List.all_eq_true]
    intro field hfield
    rw [h field hfield]
    revert field
    simp [Field.ofDate, Fields.of, dateFields, Field.onDay?]
  have hresolved : resolveYear (fields .year) (fields .century) (fields .yearOfCentury) =
      .ok (some (Calendar.yearOf day)) := by
    rw [hyear, h .century (by decide), h .yearOfCentury (by decide)]
    rfl
  -- No field of a year of weeks was read, so only the year of the calendar counts.
  have hiso : resolveYear (fields .isoYear) (fields .isoCentury) (fields .isoYearOfCentury) =
      .ok none := by
    rw [h .isoYear (by decide), h .isoCentury (by decide), h .isoYearOfCentury (by decide)]
    rfl
  rw [Fields.day?, Fields.day, hresolved, hiso]
  change (fields.candidate (some (Calendar.yearOf day)) none >>= fun day' =>
    if fields.agree day' then .ok day' else .error .impossible).toOption = some day
  rw [hcandidate]
  exact congrArg Except.toOption (if_pos hagree)

/-- A written date is read back by the pattern of dates. -/
lemma readDay?_dateText (hrange : Calendar.inRange day) :
    readDay? "%Y-%m-%d".toList (DateTime.dateText day) = some day := by
  have htakes := takes_dateText hrange []
  rw [List.append_nil] at htakes
  rw [readDay?, parse?_date, Option.bind_eq_bind, Option.bind_some, htakes.read?, Option.bind_eq_bind,
    Option.bind_some]
  exact day?_of_dateFields hrange fun _ _ => rfl

/-! ### Times -/

/-- The items of a date, a blank and a time with a fraction of its second. -/
def timeItems : List Item :=
  [.blank ' ', zeros .hour, .literal ':', zeros .minute, .literal ':', zeros .second, .fraction]

/-- The fields of a time of day. A fraction is one only if there is something of it. -/
def timeFields (t : DateTime) : List (Field × Int) :=
  (if t.nano = 0 then [] else [(.nanosecond, (t.nano : Int))]) ++
    [(.second, (t.secondOfMinute : Int)), (.minute, (t.minute : Int)), (.hour, (t.hour : Int) % 12),
      (.half, (t.hour : Int) / 12)]

lemma parse?_dateTime : parse? "%Y-%m-%d %H:%M:%S%.f".toList = some (dateItems ++ timeItems) := by
  decide +kernel

lemma fraction?_zeroPadded {k m : Nat} (hm : m < 10 ^ (k + 1)) (hk : k + 1 ≤ 9) :
    fraction? (Numeral.zeroPadded (k + 1) m) = some (((m * 10 ^ (9 - (k + 1)) : Nat) : Int), []) := by
  have hlength := Numeral.length_zeroPadded hm
  have hdigits : digits? 9 (Numeral.zeroPadded (k + 1) m) = some ((m : Int), []) := by
    have happend : digits? 9 (Numeral.zeroPadded (k + 1) m ++ []) =
        some ((Numeral.toNat (Numeral.zeroPadded (k + 1) m) : Int), []) :=
      digits?_append (Numeral.all_isDigit_zeroPadded _ _) (Numeral.zeroPadded_ne_nil _ _) (by omega)
        (.inr fun c hc => nomatch hc)
    rwa [List.append_nil, Numeral.toNat_zeroPadded] at happend
  simp only [fraction?, hdigits, Option.bind_eq_bind, Option.bind_some, hlength, List.length_nil,
    Nat.sub_zero, List.dropWhile_nil]
  rw [Int.natCast_mul]
  rfl

variable {t : DateTime}

/-- A fraction of a second is read back with the places that it was written with. -/
lemma read?_fractionText {fields fields' : Fields} (hnano : t.nano < 1000000000)
    (hzero : t.nano = 0 → fields' = fields)
    (hput : t.nano ≠ 0 → fields.put? .nanosecond t.nano = some fields') :
    Item.read? .fraction (fields, DateTime.fractionText t.nano) = some (fields', []) := by
  -- The fraction has three, six or nine digits, which differ in the power that the number is scaled by.
  have hread : ∀ k m, m < 10 ^ (k + 1) → k + 1 ≤ 9 → t.nano ≠ 0 →
      m * 10 ^ (9 - (k + 1)) = t.nano →
      Item.read? .fraction (fields, '.' :: Numeral.zeroPadded (k + 1) m) = some (fields', []) := by
    intro k m hm hk hne hnano
    simp only [Item.read?, Item.readPart?, fraction?_zeroPadded hm hk, Option.bind_eq_bind,
      Option.bind_some, hnano, hput hne]
  rw [DateTime.fractionText]
  split
  · next h =>
    rw [hzero h]
    rfl
  · next hne =>
    split
    · exact hread 2 _ (by omega) (by omega) hne (by omega)
    · split
      · exact hread 5 _ (by omega) (by omega) hne (by omega)
      · exact hread 8 _ (by omega) (by omega) hne (by omega)

/-- The fields of a time of day have values that they may have. -/
lemma admits_timeFields (hsecond : t.second < 86400) (hnano : t.nano < 1000000000)
    {field : Field} {n : Int} (hvalue : (field, n) ∈ timeFields t) : field.admits n := by
  have hhour : t.hour < 24 := by rw [DateTime.hour]; omega
  have hminute : t.minute < 60 := Nat.mod_lt _ (by omega)
  have hsecond' : t.secondOfMinute < 60 := Nat.mod_lt _ (by omega)
  rw [timeFields, List.mem_append] at hvalue
  rcases hvalue with hvalue | hvalue
  · split at hvalue
    · exact absurd hvalue List.not_mem_nil
    · obtain ⟨rfl, rfl⟩ := Prod.mk.inj (List.mem_singleton.mp hvalue)
      simp only [Field.admits, Bool.and_eq_true, decide_eq_true_eq]
      omega
  · simp only [List.mem_cons, List.not_mem_nil, or_false, Prod.mk.injEq] at hvalue
    rcases hvalue with ⟨rfl, rfl⟩ | ⟨rfl, rfl⟩ | ⟨rfl, rfl⟩ | ⟨rfl, rfl⟩ <;>
      simp only [Field.admits, Bool.and_eq_true, decide_eq_true_eq] <;> omega

/-- A written time is taken off a text behind a date. -/
lemma takes_timeText (hsecond : t.second < 86400) (hnano : t.nano < 1000000000) :
    Takes timeItems (.of (dateFields day), ' ' :: t.timeText)
      (.of (timeFields t ++ dateFields day), []) := by
  have hhour : t.hour < 24 := by rw [DateTime.hour]; omega
  have hminute : t.minute < 60 := Nat.mod_lt _ (by omega)
  have hsecond' : t.secondOfMinute < 60 := Nat.mod_lt _ (by omega)
  have htext : t.timeText = Numeral.zeroPadded 2 t.hour ++ ':' :: (Numeral.zeroPadded 2 t.minute ++
      ':' :: (Numeral.zeroPadded 2 t.secondOfMinute ++ DateTime.fractionText t.nano)) := by
    simp only [DateTime.timeText, List.append_assoc, List.cons_append, Nat.div_eq_of_lt hnano,
      Nat.mod_eq_of_lt hnano, Nat.add_zero]
  -- An hour is put down as the half of the day and the place in it.
  have hputHalf : (Fields.of (dateFields day)).put? .half ((t.hour : Int) / 12) =
      some (.of ((.half, (t.hour : Int) / 12) :: dateFields day)) :=
    Fields.put?_of (admits_timeFields hsecond hnano (by simp [timeFields])) (by simp [dateFields])
  have hputHour : (Fields.of (dateFields day)).putHour? t.hour =
      some (.of ((.hour, (t.hour : Int) % 12) :: (.half, (t.hour : Int) / 12) :: dateFields day)) := by
    rw [Fields.putHour?, hputHalf]
    change (Fields.of ((.half, (t.hour : Int) / 12) :: dateFields day)).put? .hour _ = _
    exact Fields.put?_of (admits_timeFields hsecond hnano (by simp [timeFields])) (by simp [dateFields])
  generalize hclock : (.hour, (t.hour : Int) % 12) :: (.half, (t.hour : Int) / 12) :: dateFields day =
    clock at hputHour
  have hputMinute : (Fields.of clock).put? .minute t.minute =
      some (.of ((.minute, (t.minute : Int)) :: clock)) :=
    Fields.put?_of (admits_timeFields hsecond hnano (by simp [timeFields]))
      (by simp [← hclock, dateFields])
  have hputSecond : (Fields.of ((.minute, (t.minute : Int)) :: clock)).put? .second t.secondOfMinute =
      some (.of ((.second, (t.secondOfMinute : Int)) :: (.minute, (t.minute : Int)) :: clock)) :=
    Fields.put?_of (admits_timeFields hsecond hnano (by simp [timeFields]))
      (by simp [← hclock, dateFields])
  have hfields : timeFields t ++ dateFields day =
      (if t.nano = 0 then [] else [(.nanosecond, (t.nano : Int))]) ++
        (.second, (t.secondOfMinute : Int)) :: (.minute, (t.minute : Int)) :: clock := by
    rw [timeFields, ← hclock, List.append_assoc]
    rfl
  have hfraction : Item.read? .fraction
      (.of ((.second, (t.secondOfMinute : Int)) :: (.minute, (t.minute : Int)) :: clock),
        DateTime.fractionText t.nano) = some (.of (timeFields t ++ dateFields day), []) := by
    refine read?_fractionText hnano (fun hzero => ?_) fun hne => ?_
    · rw [hfields, if_pos hzero, List.nil_append]
    · rw [hfields, if_neg hne, List.singleton_append]
      exact Fields.put?_of (admits_timeFields hsecond hnano (by simp [timeFields, hne]))
        (by simp [← hclock, dateFields])
  rw [htext]
  exact .cons (read?_blank (Numeral.trimStart_zeroPadded _ _ _))
    (.cons (read?_twoDigits (fun _ => rfl) (by omega) hputHour) (.cons read?_literal
      (.cons (read?_twoDigits (fun _ => rfl) (by omega) hputMinute) (.cons read?_literal
        (.cons (read?_twoDigits (fun _ => rfl) (by omega) hputSecond) (.cons hfraction .nil))))))

/-- The fields of a time are none of a date, and no timestamp. -/
lemma of_timeFields_append (values : List (Field × Int)) {field : Field}
    (hfield : field ∈ .timestamp :: Field.ofDate) :
    Fields.of (timeFields t ++ values) field = Fields.of values field := by
  have hfst : ∀ value ∈ timeFields t, value.1 ∈ [Field.nanosecond, .second, .minute, .hour, .half] := by
    rw [timeFields]
    split
    · simp
    · simp
  have hother : ∀ field ∈ Field.timestamp :: Field.ofDate,
      field ∉ [Field.nanosecond, .second, .minute, .hour, .half] := by decide
  exact Fields.of_append fun value hvalue heq => hother field hfield (heq ▸ hfst value hvalue)

/-- The time of day that the fields of a time amount to. -/
lemma time?_timeFields (t : DateTime) (day : Int) :
    (Fields.of (timeFields t ++ dateFields day)).time? = some (t.second, t.nano) := by
  have hhalf : Fields.of (timeFields t ++ dateFields day) .half = some ((t.hour : Int) / 12) := by
    rw [timeFields]
    split <;> rfl
  have hhour : Fields.of (timeFields t ++ dateFields day) .hour = some ((t.hour : Int) % 12) := by
    rw [timeFields]
    split <;> rfl
  have hminute : Fields.of (timeFields t ++ dateFields day) .minute = some (t.minute : Int) := by
    rw [timeFields]
    split <;> rfl
  have hsecond : Fields.of (timeFields t ++ dateFields day) .second = some (t.secondOfMinute : Int) := by
    rw [timeFields]
    split <;> rfl
  have hnano : (Fields.of (timeFields t ++ dateFields day) .nanosecond).getD 0 = (t.nano : Int) := by
    rw [timeFields]
    split
    · next hzero => rw [hzero]; rfl
    · rfl
  -- Half of the day, hour, minute and second make up the second of the day again.
  have hsum : ((((t.hour : Int) / 12 * 12 + (t.hour : Int) % 12) * 60 + t.minute) * 60 +
      t.secondOfMinute).toNat = t.second := by
    simp only [DateTime.hour, DateTime.minute, DateTime.secondOfMinute]
    omega
  have hlt : t.secondOfMinute < 60 := Nat.mod_lt _ (by omega)
  simp only [Fields.time?, hhalf, hhour, hminute, hsecond, hnano, Option.bind_eq_bind, Option.bind_some]
  split
  · next hleap =>
    have hsixty := Option.some.inj hleap
    omega
  · next second _ heq =>
    obtain rfl := Option.some.inj heq
    rw [hsum, Int.toNat_natCast]
  · next heq => exact nomatch heq

/-- A written date and time is read back by the pattern of dates and times. -/
lemma readDateTime?_text (hrange : Calendar.inRange t.day) (hsecond : t.second < 86400)
    (hnano : t.nano < 1000000000) :
    readDateTime? "%Y-%m-%d %H:%M:%S%.f".toList t.text = some t := by
  have htakes := (takes_dateText hrange (' ' :: t.timeText)).append (takes_timeText hsecond hnano)
  have hday : (Fields.of (timeFields t ++ dateFields t.day)).day? = some t.day :=
    day?_of_dateFields hrange fun field hfield => of_timeFields_append _ (List.mem_cons_of_mem _ hfield)
  have htimestamp : Fields.of (timeFields t ++ dateFields t.day) .timestamp = none :=
    of_timeFields_append _ List.mem_cons_self
  rw [readDateTime?, parse?_dateTime, Option.bind_eq_bind, Option.bind_some, DateTime.text, htakes.read?,
    Option.bind_eq_bind, Option.bind_some, Fields.dateTime?, Fields.plain?, hday, time?_timeFields,
    htimestamp]
  rfl

/-! ### Patterns that do not match -/

section

variable {fields : Fields} {items items' : List Item} {s rest : List Char} {part : Part} {pad : Pad}
  {c c' : Char}

/-- A pattern has to match the whole of a text. -/
lemma read?_eq_none_of_rest (h : Takes items (Fields.empty, s) (fields, c :: rest)) :
    read? items s = none := by
  rw [Takes] at h
  rw [Pattern.read?, h]

lemma read?_eq_none_of_literal (h : Takes items (Fields.empty, s) (fields, c' :: rest)) (hne : c ≠ c') :
    read? (items ++ .literal c :: items') s = none := by
  have hliteral : Item.read? (.literal c) (fields, c' :: rest) = none := if_neg hne
  rw [Takes] at h
  rw [Pattern.read?, List.foldlM_append, h, Option.bind_eq_bind, Option.bind_some, List.foldlM_cons,
    hliteral]
  rfl

/-- A year has a sign or more than two digits, so no part of two digits and what is no digit begin it. -/
lemma read?_yearText_eq_none (hpart : ∀ s, part.number? s = digits? 2 s)
    (hc : Numeral.isDigit c = false) (year : Int) (rest : List Char) :
    read? (.number part pad :: .literal c :: items) (DateTime.yearText year ++ rest) = none := by
  have hsigned : ∀ sign s, Numeral.isDigit sign = false → Text.isBlank sign = false →
      read? (.number part pad :: .literal c :: items) (sign :: s) = none := by
    intro sign s hsign hblank
    have hdigits : digits? 2 (sign :: s) = none := by
      simp [digits?, hsign]
    have hitem : Item.read? (.number part pad) (Fields.empty, sign :: s) = none := by
      simp only [Item.read?, Item.readPart?, Text.trimStart_cons hblank, hpart, hdigits,
        Option.bind_eq_bind, Option.bind_none]
    rw [Pattern.read?, List.foldlM_cons, hitem]
    rfl
  rcases DateTime.yearText_cases year with ⟨hlow, hhigh, htext⟩ | ⟨-, htext⟩ | ⟨-, htext⟩
  · have hlength : (Numeral.zeroPadded 4 year.toNat).length = 4 := Numeral.length_zeroPadded (by omega)
    have hall := Numeral.all_isDigit_zeroPadded 4 year.toNat
    rw [htext]
    generalize Numeral.zeroPadded 4 year.toNat = ds at hlength hall
    obtain ⟨first, second, third, ds, rfl⟩ :
        ∃ first second third ds', ds = first :: second :: third :: ds' := by
      rcases ds with - | ⟨first, - | ⟨second, - | ⟨third, ds⟩⟩⟩
      · simp at hlength
      · simp at hlength
      · simp at hlength
      · exact ⟨first, second, third, ds, rfl⟩
    simp only [List.all_cons, Bool.and_eq_true] at hall
    obtain ⟨hfirst, hsecond, hthird, -⟩ := hall
    have hdigits : digits? 2 (first :: second :: third :: ds ++ rest) =
        some ((Numeral.toNat [first, second] : Int), third :: ds ++ rest) := by
      simp [digits?, hfirst, hsecond]
    have hblank : Text.trimStart (first :: second :: third :: ds ++ rest) =
        first :: second :: third :: ds ++ rest :=
      Text.trimStart_cons (Numeral.isBlank_of_isDigit hfirst) _
    -- The number takes two digits of the year, and behind them stands a digit in place of the mark.
    have hne : c ≠ third := by
      rintro rfl
      exact Bool.false_ne_true (hc.symm.trans hthird)
    -- Should the two digits be no month or day then they are refused even before that.
    cases hput : part.put? Fields.empty (Numeral.toNat [first, second]) with
    | none =>
      have hitem : Item.read? (.number part pad)
          (Fields.empty, first :: second :: third :: ds ++ rest) = none := by
        simp only [Item.read?, Item.readPart?, hblank, hpart, hdigits, Option.bind_eq_bind,
          Option.bind_some, hput, Option.bind_none]
      rw [Pattern.read?, List.foldlM_cons, hitem]
      rfl
    | some fields =>
      have htakes : Takes [.number part pad] (Fields.empty, first :: second :: third :: ds ++ rest)
          (fields, third :: ds ++ rest) :=
        .cons (read?_number hblank ((hpart _).trans hdigits) hput) .nil
      exact read?_eq_none_of_literal htakes hne
  · rw [htext]
    exact hsigned _ _ (by decide) (by decide)
  · rw [htext]
    exact hsigned _ _ (by decide) (by decide)

end

/-- What stands behind a date has to be matched too, and the other patterns of dates have something else
behind the year, or a shorter part in front. -/
lemma readDay?_dateText_append {day : Int} (hrange : Calendar.inRange day) (c : Char)
    (rest : List Char) :
    readDay? "%Y-%m-%d".toList (DateTime.dateText day ++ c :: rest) = none ∧
      readDay? "%Y/%m/%d".toList (DateTime.dateText day ++ c :: rest) = none ∧
      readDay? "%m/%d/%Y".toList (DateTime.dateText day ++ c :: rest) = none ∧
      readDay? "%d.%m.%Y".toList (DateTime.dateText day ++ c :: rest) = none := by
  have hslashes : parse? "%Y/%m/%d".toList =
      some ([zeros .year] ++ .literal '/' :: [zeros .month, .literal '/', zeros .day]) := by
    decide +kernel
  have hmonth : parse? "%m/%d/%Y".toList =
      some (zeros .month :: .literal '/' :: [zeros .day, .literal '/', zeros .year]) := by decide +kernel
  have hday : parse? "%d.%m.%Y".toList =
      some (zeros .day :: .literal '.' :: [zeros .month, .literal '.', zeros .year]) := by decide +kernel
  obtain ⟨hyear, -⟩ := Calendar.dateOf_spec day
  have htext : ∃ more, DateTime.dateText day ++ c :: rest =
      DateTime.yearText (Calendar.yearOf day) ++ '-' :: more := by
    rw [DateTime.dateText, hyear]
    simp only [List.append_assoc, List.cons_append]
    exact ⟨_, rfl⟩
  obtain ⟨more, htext⟩ := htext
  refine ⟨?_, ?_, ?_, ?_⟩
  -- The pattern of a date takes the whole date, and then there is a rest.
  · simp only [readDay?, parse?_date, Option.bind_eq_bind, Option.bind_some,
      read?_eq_none_of_rest (takes_dateText hrange (c :: rest)), Option.bind_none]
  -- The others meet a mark that is not theirs: behind the year, or behind two of its digits.
  · have hput : (Fields.of []).put? .year (Calendar.yearOf day) =
        some (.of [(.year, Calendar.yearOf day)]) :=
      Fields.put?_of (admits_dateFields hrange (by simp [dateFields])) (by simp)
    have htakes : Takes [zeros .year]
        (Fields.empty, DateTime.yearText (Calendar.yearOf day) ++ '-' :: more)
        (.of [(.year, Calendar.yearOf day)], '-' :: more) :=
      .cons (read?_number (trimStart_yearText _ _) (yearNumber?_yearText _ (by decide) _) hput) .nil
    simp only [htext, readDay?, hslashes, Option.bind_eq_bind, Option.bind_some,
      read?_eq_none_of_literal htakes (by decide : '/' ≠ '-'), Option.bind_none]
  · have hpart : ∀ s, Part.month.number? s = digits? 2 s := fun _ => rfl
    simp only [htext, readDay?, hmonth, Option.bind_eq_bind, Option.bind_some, zeros,
      read?_yearText_eq_none hpart (by decide : Numeral.isDigit '/' = false), Option.bind_none]
  · have hpart : ∀ s, Part.day.number? s = digits? 2 s := fun _ => rfl
    simp only [htext, readDay?, hday, Option.bind_eq_bind, Option.bind_some, zeros,
      read?_yearText_eq_none hpart (by decide : Numeral.isDigit '.' = false), Option.bind_none]

end Pattern
end TimeTable
