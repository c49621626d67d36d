import Mathlib.Data.List.TakeWhile
import TimeTable.CommandLine.Spec
import TimeTable.Proofs.Text.Numeral

/-!
# Written filters

A filter is a column, the symbol of a comparison and a value. The column ends where the first character
of a symbol stands, so a text is taken apart in one way only; of the symbols that stand there the longest
one counts, and what stands behind it may not go on like a symbol. All of this is about characters, so
none that takes several bytes is ever cut.
-/

namespace TimeTable

/-! ### Symbols -/

namespace Comparison

variable {op op' : Comparison} {symbol s : List Char}

/-- The symbols that a comparison is written with. -/
def symbols : Comparison → List (List Char)
  | eq => [['='], ['=', '=']]
  | neq => [['!', '='], ['<', '>']]
  | gt => [['>']]
  | gtEq => [['>', '=']]
  | lt => [['<']]
  | ltEq => [['<', '=']]

lemma mem_symbols_of_ofSymbol? {s : String} (h : ofSymbol? s = some op) : s.toList ∈ op.symbols := by
  rw [ofSymbol?.eq_def] at h
  split at h
  case h_9 => cases h
  all_goals
    obtain rfl := Option.some.inj h
    decide

lemma ofSymbol?_of_mem_symbols (h : symbol ∈ op.symbols) :
    ofSymbol? (.ofList symbol) = some op := by
  cases op with
  | eq | neq =>
    rcases List.mem_pair.mp h with rfl | rfl
    · rfl
    · rfl
  | gt | gtEq | lt | ltEq =>
    rw [List.mem_singleton.mp h]
    rfl

lemma ofSymbol?_eq_some_iff : ofSymbol? (.ofList symbol) = some op ↔ symbol ∈ op.symbols := by
  refine ⟨fun h => ?_, ofSymbol?_of_mem_symbols⟩
  have hmem := mem_symbols_of_ofSymbol? h
  rwa [String.toList_ofList] at hmem

lemma eq_of_mem_symbols (h : symbol ∈ op.symbols) (h' : symbol ∈ op'.symbols) : op = op' :=
  Option.some.inj ((ofSymbol?_of_mem_symbols h).symm.trans (ofSymbol?_of_mem_symbols h'))

lemma length_of_mem_symbols (h : symbol ∈ op.symbols) : symbol.length = 1 ∨ symbol.length = 2 := by
  have hall : op.symbols.all fun symbol => symbol.length = 1 ∨ symbol.length = 2 := by
    cases op <;> decide
  exact of_decide_eq_true (List.all_eq_true.mp hall _ h)

lemma isOperatorChar_of_mem_symbols (h : symbol ∈ op.symbols) :
    ∀ c ∈ symbol, Spec.isOperatorChar c := by
  have hall : op.symbols.all fun symbol => symbol.all Spec.isOperatorChar := by
    cases op <;> decide
  exact List.all_eq_true.mp (List.all_eq_true.mp hall _ h)

/-- A text begins with a symbol and with no longer one. -/
structure IsLongest (symbol s : List Char) : Prop where
  begins : symbol <+: s
  length_le : ∀ (op : Comparison), ∀ other ∈ op.symbols, other <+: s → other.length ≤ symbol.length

/-- Of the symbols that a text begins with one is the longest. -/
lemma IsLongest.unique {other : List Char} (h : IsLongest symbol s) (h' : IsLongest other s)
    (hmem : symbol ∈ op.symbols) (hmem' : other ∈ op'.symbols) : symbol = other := by
  have hlength : symbol.length = other.length :=
    Nat.le_antisymm (h'.length_le op symbol hmem h.begins) (h.length_le op' other hmem' h'.begins)
  exact (List.prefix_of_prefix_length_le h.begins h'.begins hlength.le).eq_of_length hlength

/-- In front of a text that does not go on like a symbol each symbol is the longest. -/
lemma isLongest_append {value : List Char}
    (hvalue : ∀ c ∈ value.head?, Spec.isOperatorChar c = false) :
    IsLongest symbol (symbol ++ value) := by
  refine ⟨List.prefix_append symbol value, ?_⟩
  intro op' other hother hbegins
  by_contra hlonger
  obtain ⟨more, rfl⟩ := List.prefix_of_prefix_length_le (List.prefix_append symbol value) hbegins
    (Nat.le_of_not_le hlonger)
  -- A longer symbol would take its next character from the value, which begins with none of a symbol.
  cases more with
  | nil => exact hlonger (by rw [List.append_nil])
  | cons c more =>
    obtain ⟨rest, rfl⟩ := (List.prefix_append_right_inj symbol).mp hbegins
    have hoperator := isOperatorChar_of_mem_symbols hother c (by simp)
    rw [hvalue c rfl] at hoperator
    cases hoperator

end Comparison

namespace Spec

open Comparison

variable {op : Comparison} {width : Nat} {s symbol rest column value : List Char} {e : Expr}

lemma comparisonOf?_eq_some_iff :
    comparisonOf? width s = some (op, rest) ↔ s.take width ∈ op.symbols ∧ s.drop width = rest := by
  rw [comparisonOf?, Option.map_eq_some_iff]
  constructor
  · rintro ⟨op', hop, hrest⟩
    obtain ⟨rfl, rfl⟩ := Prod.mk.inj hrest
    exact ⟨ofSymbol?_eq_some_iff.mp hop, rfl⟩
  · rintro ⟨hmem, rfl⟩
    exact ⟨op, ofSymbol?_eq_some_iff.mpr hmem, rfl⟩

/-- Two characters are tried before one, which is as many as a symbol has. -/
lemma isLongest_of_comparison? (h : comparison? s = some (op, rest)) :
    ∃ symbol ∈ op.symbols, s = symbol ++ rest ∧ IsLongest symbol s := by
  rw [comparison?, Option.or_eq_some_iff] at h
  rcases h with h | ⟨hnone, h⟩
  · obtain ⟨hmem, rfl⟩ := comparisonOf?_eq_some_iff.mp h
    -- Two characters are as long as symbols get.
    refine ⟨_, hmem, (List.take_append_drop 2 s).symm, List.take_prefix 2 s, ?_⟩
    intro op' other hother hbegins
    have hle := hbegins.length_le
    have htwo := length_of_mem_symbols hother
    rw [List.length_take]
    omega
  · obtain ⟨hmem, rfl⟩ := comparisonOf?_eq_some_iff.mp h
    refine ⟨_, hmem, (List.take_append_drop 1 s).symm, List.take_prefix 1 s, ?_⟩
    intro op' other hother hbegins
    rcases length_of_mem_symbols hother with hone | htwo
    · have hle := hbegins.length_le
      rw [List.length_take]
      omega
    · -- A symbol of two characters would have been found first.
      have htake : s.take 2 = other := by
        rw [← htwo]
        exact (List.prefix_iff_eq_take.mp hbegins).symm
      have hsome := comparisonOf?_eq_some_iff.mpr ⟨htake ▸ hother, rfl⟩
      rw [hnone] at hsome
      cases hsome

/-- If a text begins with a symbol, some comparison is read. -/
lemma exists_comparison? (hmem : symbol ∈ op.symbols) (hbegins : symbol <+: s) :
    ∃ op' rest, comparison? s = some (op', rest) := by
  rcases hcomparison : comparison? s with - | ⟨op', rest⟩
  · rw [comparison?, Option.or_eq_none_iff] at hcomparison
    have htake : s.take symbol.length = symbol := (List.prefix_iff_eq_take.mp hbegins).symm
    have hsome := comparisonOf?_eq_some_iff.mpr ⟨htake.symm ▸ hmem, rfl⟩
    rcases length_of_mem_symbols hmem with hone | htwo
    · rw [hone, hcomparison.2] at hsome
      cases hsome
    · rw [htwo, hcomparison.1] at hsome
      cases hsome
  · exact ⟨op', rest, rfl⟩

/-- The comparison that is read is that of the longest symbol. -/
lemma comparison?_eq_some_iff : comparison? s = some (op, rest) ↔
    ∃ symbol ∈ op.symbols, s = symbol ++ rest ∧ IsLongest symbol s := by
  refine ⟨isLongest_of_comparison?, ?_⟩
  rintro ⟨symbol, hmem, hs, hlongest⟩
  obtain ⟨op', rest', h⟩ := exists_comparison? hmem hlongest.begins
  obtain ⟨symbol', hmem', hs', hlongest'⟩ := isLongest_of_comparison? h
  obtain rfl := hlongest.unique hlongest' hmem hmem'
  obtain rfl := eq_of_mem_symbols hmem hmem'
  rw [h, List.append_cancel_left (hs.symm.trans hs')]

/-! ### Filters -/

/-- The predicate that compares a column with a value. -/
def predicate (column : List Char) (op : Comparison) (value : List Char) : Expr :=
  .compare (.col (.ofList (Text.trim column))) op (.lit (literal (Text.trim value)))

/-- A text is a filter if a comparison stands at the first character of a symbol, the text before it is
not blank and the text behind it begins with no such character. -/
lemma filter_eq_ok_iff_of_split (hcolumn : (s.takeWhile fun c => !isOperatorChar c) = column)
    (hrest : (s.dropWhile fun c => !isOperatorChar c) = rest) :
    filter s = .ok e ↔ ∃ op value, comparison? rest = some (op, value) ∧ Text.trim column ≠ [] ∧
      (∀ c ∈ value.head?, isOperatorChar c = false) ∧ e = predicate column op value := by
  rw [filter, hcolumn, hrest]
  split
  · constructor
    · intro h
      cases h
    · rintro ⟨op, value, h, -⟩
      have hnone : comparison? [] = none := by decide
      rw [hnone] at h
      cases h
  · split
    · next hnone =>
      constructor
      · intro h
        cases h
      · rintro ⟨op, value, h, -⟩
        rw [hnone] at h
        cases h
    · next op value hsome =>
      have hany : value.head?.any isOperatorChar = false ↔
          ∀ c ∈ value.head?, isOperatorChar c = false := by
        cases value <;> simp
      constructor
      · intro h
        simp only at h
        split_ifs at h with hempty hvalue
        refine ⟨op, value, hsome, ?_, ?_, ?_⟩
        · rwa [List.isEmpty_iff] at hempty
        · rwa [Bool.not_eq_true, hany] at hvalue
        · exact (Except.ok.inj h).symm
      · rintro ⟨op', value', h, hempty, hvalue, rfl⟩
        obtain ⟨rfl, rfl⟩ := Prod.mk.inj (Option.some.inj (hsome.symm.trans h))
        have hplain : ¬value.head?.any isOperatorChar = true :=
          (Bool.not_eq_true _).mpr (hany.mpr hvalue)
        simp only
        rw [if_neg (mt List.isEmpty_iff.mp hempty), if_neg hplain]
        rfl

/-- A text taken apart: a column that is not blank and in which no character of a symbol stands, the
longest symbol that stands behind it, and a value that begins with no such character. -/
structure IsFilter (s column symbol : List Char) (op : Comparison) (value : List Char) : Prop where
  text_eq : s = column ++ (symbol ++ value)
  column_plain : ∀ c ∈ column, isOperatorChar c = false
  column_visible : ∃ c ∈ column, Text.isBlank c = false
  mem_symbols : symbol ∈ op.symbols
  longest : IsLongest symbol (symbol ++ value)
  value_plain : ∀ c ∈ value.head?, isOperatorChar c = false

/-- Where a symbol stands behind a column, the column ends. -/
lemma span_append_symbol (hcolumn : ∀ c ∈ column, isOperatorChar c = false)
    (hmem : symbol ∈ op.symbols) (value : List Char) :
    ((column ++ (symbol ++ value)).takeWhile fun c => !isOperatorChar c) = column ∧
      ((column ++ (symbol ++ value)).dropWhile fun c => !isOperatorChar c) = symbol ++ value := by
  -- The name ends where the first character of a symbol stands, and a symbol has one.
  have hplain : ∀ c ∈ column, (!isOperatorChar c) = true := by
    intro c hc
    rw [hcolumn c hc, Bool.not_false]
  rw [List.takeWhile_append_of_pos hplain, List.dropWhile_append_of_pos hplain]
  have hlength := length_of_mem_symbols hmem
  cases symbol with
  | nil => simp at hlength
  | cons c symbol =>
    have hstop : ¬(!isOperatorChar c) = true := by
      rw [isOperatorChar_of_mem_symbols hmem c List.mem_cons_self, Bool.not_true]
      exact Bool.false_ne_true
    rw [List.cons_append, List.takeWhile_cons_of_neg (by exact hstop),
      List.dropWhile_cons_of_neg (by exact hstop), List.append_nil]
    exact ⟨rfl, rfl⟩

lemma filter_eq_ok_iff : filter s = .ok e ↔
    ∃ column symbol op value, IsFilter s column symbol op value ∧ e = predicate column op value := by
  constructor
  · intro h
    obtain ⟨op, value, hcomparison, hvisible, hvalue, rfl⟩ :=
      (filter_eq_ok_iff_of_split rfl rfl).mp h
    obtain ⟨symbol, hmem, hrest, hlongest⟩ := comparison?_eq_some_iff.mp hcomparison
    refine ⟨_, symbol, op, value, ⟨?_, ?_, ?_, hmem, hrest ▸ hlongest, hvalue⟩, rfl⟩
    · rw [← hrest, List.takeWhile_append_dropWhile]
    · intro c hc
      have hplain := List.mem_takeWhile_imp hc
      exact (Bool.not_eq_true' _).mp hplain
    · exact Text.trim_ne_nil_iff.mp hvisible
  · rintro ⟨column, symbol, op, value, ⟨rfl, hcolumn, hvisible, hmem, hlongest, hvalue⟩, rfl⟩
    obtain ⟨htake, hdrop⟩ := span_append_symbol hcolumn hmem value
    refine (filter_eq_ok_iff_of_split htake hdrop).mpr ⟨op, value, ?_, ?_, hvalue, rfl⟩
    · exact comparison?_eq_some_iff.mpr ⟨symbol, hmem, rfl, hlongest⟩
    · exact Text.trim_ne_nil_iff.mpr hvisible

/-- A text is a filter if and only if it is a column that is not blank and holds no character of a
symbol, the longest symbol that stands there, and a value that begins with no such character; it stands
for the comparison of the trimmed column with what the trimmed value is read as. So a trimmed name, any
symbol and any such value, written one behind the other, are read as the comparison that they are. -/
theorem filter_iff_isFilter :
    (∀ s e, filter s = .ok e ↔ ∃ column symbol op value, IsFilter s column symbol op value ∧
      e = .compare (.col (.ofList (Text.trim column))) op (.lit (literal (Text.trim value)))) ∧
    ∀ (name : String) (op : Comparison), ∀ symbol ∈ op.symbols, ∀ value : List Char,
      (∃ c ∈ name.toList, Text.isBlank c = false) → Text.trim name.toList = name.toList →
      (∀ c ∈ name.toList, isOperatorChar c = false) →
      (∀ c ∈ value.head?, isOperatorChar c = false) →
        filter (name.toList ++ symbol ++ value) =
          .ok (.compare (.col name) op (.lit (literal (Text.trim value)))) := by
  refine ⟨fun s e => filter_eq_ok_iff, ?_⟩
  intro name op symbol hmem value hvisible htrim hname hvalue
  have hfilter : IsFilter (name.toList ++ symbol ++ value) name.toList symbol op value :=
    ⟨List.append_assoc _ _ _, hname, hvisible, hmem, isLongest_append hvalue, hvalue⟩
  rw [filter_eq_ok_iff.mpr ⟨_, _, _, _, hfilter, rfl⟩, predicate, htrim, String.ofList_toList]

/-- Names and texts of several bytes, and a symbol that begins like a shorter one. -/
theorem filter_iff_isFilter_several_bytes :
    filter "größe<= -3".toList = .ok (.compare (.col "größe") .ltEq (.lit (.int64 (-3)))) ∧
    (IsFilter " 名 == 'é'".toList " 名 ".toList ['=', '='] .eq " 'é'".toList ∧
      filter " 名 == 'é'".toList = .ok (.compare (.col "名") .eq (.lit (.utf8 "é")))) := by
  obtain ⟨hiff, hwritten⟩ := filter_iff_isFilter
  have hnumber : literal (Text.trim " -3".toList) = .int64 (-3) := rfl
  have hquoted : literal (Text.trim " 'é'".toList) = .utf8 "é" := rfl
  have hfilter : IsFilter " 名 == 'é'".toList " 名 ".toList ['=', '='] .eq " 'é'".toList :=
    ⟨rfl, by simp [isOperatorChar], ⟨'名', by decide⟩, by decide,
      isLongest_append (by simp [isOperatorChar]), by simp [isOperatorChar]⟩
  refine ⟨?_, hfilter, (hiff _ _).mpr ⟨_, _, _, _, hfilter, ?_⟩⟩
  · have h := hwritten "größe" .ltEq ['<', '='] (by decide) " -3".toList ⟨'g', by decide⟩
      (by decide) (by simp [isOperatorChar]) (by simp [isOperatorChar])
    rw [hnumber] at h
    exact h
  · rw [hquoted]
    rfl

end Spec
end TimeTable
