import TimeTable.Proofs.Group.Classes

/-!
# Classes among some rows

The classes of equal rows in any list of rows, in any order. Among all rows in order these are the
classes of all rows. If rows are dropped, but never some of a class only, then what is left are the
classes that are kept, in the order that they had.
-/

namespace TimeTable.GroupIndex

variable {same same' : Nat → Nat → Bool} {keep : Nat → Bool} {rows : List Nat} {n row : Nat}

/-- The rows of a list that differ from a row. -/
def unlike (same : Nat → Nat → Bool) (row : Nat) (rows : List Nat) : List Nat :=
  rows.filter fun other => !same row other

/-- The classes of equal rows in a list: the first row with all others that are equal to it, and the
classes of the rest. -/
def classesAmong (same : Nat → Nat → Bool) : List Nat → List (List Nat)
  | [] => []
  | row :: rows => (row :: rows.filter (same row)) :: classesAmong same (unlike same row rows)
termination_by rows => rows.length
decreasing_by exact Nat.lt_succ_of_le (List.length_filter_le _ _)

lemma mem_unlike {a : Nat} : a ∈ unlike same row rows ↔ a ∈ rows ∧ same row a = false := by
  rw [unlike, List.mem_filter, Bool.not_eq_true']

@[simp] lemma classesAmong_nil (same : Nat → Nat → Bool) : classesAmong same [] = [] := by
  rw [classesAmong]

lemma classesAmong_cons (same : Nat → Nat → Bool) (row : Nat) (rows : List Nat) :
    classesAmong same (row :: rows) =
      (row :: rows.filter (same row)) :: classesAmong same (unlike same row rows) := by
  rw [classesAmong]

/-- Classes are not changed when rows go by other numbers. -/
lemma map_classesAmong {number : Nat → Nat}
    (h : ∀ a ∈ rows, ∀ b ∈ rows, same' a b = same (number a) (number b)) :
    (classesAmong same' rows).map (List.map number) = classesAmong same (rows.map number) := by
  -- The induction follows the definition: the rest of the classes is that of the rows unlike the first one.
  induction rows using classesAmong.induct same' with
  | case1 => simp
  | case2 row rows ih =>
    have hrow : ∀ other ∈ rows, same' row other = same (number row) (number other) :=
      fun other hother => h row List.mem_cons_self other (List.mem_cons_of_mem _ hother)
    have hrest := ih fun a ha b hb =>
      h a (List.mem_cons_of_mem _ (mem_unlike.mp ha).1) b
        (List.mem_cons_of_mem _ (mem_unlike.mp hb).1)
    have hequal : (rows.map number).filter (same (number row)) =
        (rows.filter (same' row)).map number := by
      rw [List.filter_map]
      exact congrArg _ (List.filter_congr fun other hother => (hrow other hother).symm)
    have hunlike : unlike same (number row) (rows.map number) =
        (unlike same' row rows).map number := by
      rw [unlike, List.filter_map]
      exact congrArg _ (List.filter_congr fun other hother =>
        congrArg _ (hrow other hother).symm)
    rw [classesAmong_cons, List.map_cons, hrest, List.map_cons, List.map_cons, classesAmong_cons,
      hequal, hunlike]

def isKept (keep : Nat → Bool) (group : List Nat) : Bool := group.all keep

/-- If equal rows are kept or dropped together then the classes among the kept rows are the classes of
kept rows. -/
lemma classesAmong_filter
    (hkeep : ∀ a ∈ rows, ∀ b ∈ rows, same a b = true → keep a = keep b) :
    classesAmong same (rows.filter keep) = (classesAmong same rows).filter (isKept keep) := by
  induction rows using classesAmong.induct same with
  | case1 => simp
  | case2 row rows ih =>
    have hrow : ∀ other ∈ rows, same row other = true → keep other = keep row :=
      fun other hother hsame =>
        (hkeep row List.mem_cons_self other (List.mem_cons_of_mem _ hother) hsame).symm
    have hrest := ih fun a ha b hb =>
      hkeep a (List.mem_cons_of_mem _ (mem_unlike.mp ha).1) b
        (List.mem_cons_of_mem _ (mem_unlike.mp hb).1)
    have hclass : isKept keep (row :: rows.filter (same row)) = keep row := by
      rw [isKept, List.all_cons, Bool.and_eq_left_iff_imp, List.all_eq_true]
      intro hkept other hother
      obtain ⟨hmem, hsame⟩ := List.mem_filter.mp hother
      rw [hrow other hmem hsame, hkept]
    rw [classesAmong_cons same row rows]
    -- The class of the first row is kept or dropped with this row.
    by_cases hkept : keep row = true
    · have hequal : (rows.filter keep).filter (same row) = rows.filter (same row) := by
        rw [List.filter_filter]
        refine List.filter_congr fun other hother => ?_
        rw [Bool.and_eq_left_iff_imp]
        intro hsame
        rw [hrow other hother hsame, hkept]
      have hunlike : unlike same row (rows.filter keep) = (unlike same row rows).filter keep := by
        rw [unlike, unlike, List.filter_filter, List.filter_filter]
        exact List.filter_congr fun other _ => Bool.and_comm _ _
      rw [List.filter_cons_of_pos hkept, classesAmong_cons, hequal, hunlike, hrest,
        List.filter_cons_of_pos (hclass.trans hkept)]
    · have hdropped : rows.filter keep = (unlike same row rows).filter keep := by
        rw [unlike, List.filter_filter]
        refine List.filter_congr fun other hother => ?_
        symm
        rw [Bool.and_eq_left_iff_imp, Bool.not_eq_true', Bool.eq_false_iff]
        exact fun hother' hsame => hkept (hrow other hother hsame ▸ hother')
      rw [List.filter_cons_of_neg hkept, hdropped, hrest,
        List.filter_cons_of_neg fun h => hkept (hclass.symm.trans h)]

/-- Whether no smaller row of a list is equal to a row. -/
def isFirstAmong (same : Nat → Nat → Bool) (rows : List Nat) (row : Nat) : Bool :=
  rows.all fun other => !(decide (other < row) && same other row)

lemma isFirstAmong_iff :
    isFirstAmong same rows row = true ↔ ∀ other ∈ rows, other < row → same other row = false := by
  simp only [isFirstAmong, List.all_eq_true, Bool.not_eq_true', Bool.and_eq_false_imp,
    decide_eq_true_eq]

section Equivalence

variable (heq : Equivalence fun a b => same a b = true)
include heq

/-- Behind the first row the first rows are those that are first among the rows that differ from it. -/
lemma filter_isFirstAmong_cons (hrows : ∀ other ∈ rows, row < other) :
    rows.filter (isFirstAmong same (row :: rows)) =
      (unlike same row rows).filter (isFirstAmong same (unlike same row rows)) := by
  -- What is not like this row is first among all rows as soon as it is first among the unlike ones: a row
  -- like this one that comes before would be like it.
  conv_rhs => rw [unlike, List.filter_filter, ← unlike]
  refine List.filter_congr fun other hother => ?_
  rw [Bool.eq_iff_iff, Bool.and_eq_true, isFirstAmong_iff, isFirstAmong_iff, Bool.not_eq_true']
  constructor
  · intro h
    exact ⟨fun a ha => h a (List.mem_cons_of_mem _ (mem_unlike.mp ha).1),
      h row List.mem_cons_self (hrows other hother)⟩
  · rintro ⟨h, hdiffers⟩ a ha hlt
    rcases List.mem_cons.mp ha with rfl | ha
    · exact hdiffers
    · cases hsame : same row a with
      | false => exact h a (mem_unlike.mpr ⟨ha, hsame⟩) hlt
      | true =>
        rw [Bool.eq_false_iff] at hdiffers ⊢
        exact fun h' => hdiffers (heq.trans hsame h')

/-- The class of a row that differs from the first one lies among such rows. -/
lemma filter_same_cons {other : Nat} (hdiffers : same row other = false) :
    (row :: rows).filter (same other) = (unlike same row rows).filter (same other) := by
  rw [Bool.eq_false_iff] at hdiffers
  rw [List.filter_cons_of_neg fun h => hdiffers (heq.symm h), unlike, List.filter_filter]
  refine List.filter_congr fun a _ => ?_
  symm
  rw [Bool.and_eq_left_iff_imp, Bool.not_eq_true', Bool.eq_false_iff]
  exact fun hsame hrow => hdiffers (heq.trans hrow (heq.symm hsame))

/-- In ascending rows the classes are those of the first rows. -/
lemma classesAmong_eq_map (hrows : rows.Pairwise (· < ·)) :
    classesAmong same rows =
      (rows.filter (isFirstAmong same rows)).map fun row => rows.filter (same row) := by
  induction rows using classesAmong.induct same with
  | case1 => simp
  | case2 row rows ih =>
    rw [List.pairwise_cons] at hrows
    have hrest := ih (hrows.2.filter _)
    have hself : same row row = true := heq.refl row
    have hfirst : isFirstAmong same (row :: rows) row = true := by
      rw [isFirstAmong_iff]
      intro other hother hlt
      rcases List.mem_cons.mp hother with rfl | hother
      · exact absurd hlt (Nat.lt_irrefl _)
      · exact absurd hlt (Nat.lt_asymm (hrows.1 other hother))
    rw [classesAmong_cons, hrest, List.filter_cons_of_pos hfirst, List.map_cons,
      List.filter_cons_of_pos hself, filter_isFirstAmong_cons heq hrows.1]
    congr 1
    refine List.map_congr_left fun first hmem => ?_
    rw [filter_same_cons heq (mem_unlike.mp (List.mem_of_mem_filter hmem)).2]

/-- Among all rows in order the classes are the classes of the rows. -/
lemma classes_eq_classesAmong (n : Nat) : classes same n = classesAmong same (List.range n) := by
  rw [classesAmong_eq_map heq List.pairwise_lt_range, classes, firsts]
  congr 1
  refine List.filter_congr fun row hrow => ?_
  rw [Bool.eq_iff_iff, isFirst_iff, isFirstAmong_iff]
  constructor
  · exact fun h other _ hlt => h other hlt
  · exact fun h earlier hlt =>
      h earlier (List.mem_range.mpr (Nat.lt_trans hlt (List.mem_range.mp hrow))) hlt

end Equivalence
end TimeTable.GroupIndex
