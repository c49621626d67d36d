import TimeTable.Plan.Run
import TimeTable.Proofs.Expr.Scope

namespace TimeTable

variable {t source : Table} {keys columns : List Column} {aggs : List Expr} {name : String}
  {names seen : List String}

/-- The first column of each name that is not taken. -/
def Column.untaken (taken : List String) : List Column → List Column
  | [] => []
  | c :: cs => if c.name ∈ taken then untaken taken cs else c :: untaken (c.name :: taken) cs

lemma Column.mem_of_mem_untaken {c : Column} {taken : List String}
    (h : c ∈ untaken taken columns) : c ∈ columns ∧ c.name ∉ taken := by
  induction columns generalizing taken with
  | nil => exact absurd h List.not_mem_nil
  | cons d ds ih =>
    rw [untaken] at h
    split at h
    · exact ⟨List.mem_cons_of_mem d (ih h).1, (ih h).2⟩
    · next hd =>
      rcases List.mem_cons.mp h with rfl | h
      · exact ⟨List.mem_cons_self, hd⟩
      · obtain ⟨hmem, hnot⟩ := ih h
        exact ⟨List.mem_cons_of_mem d hmem, fun hname => hnot (List.mem_cons_of_mem _ hname)⟩

lemma Column.nodup_untaken (taken : List String) (columns : List Column) :
    ((untaken taken columns).map Column.name).Nodup := by
  induction columns generalizing taken with
  | nil => exact List.nodup_nil
  | cons c cs ih =>
    rw [untaken]
    split
    · exact ih taken
    · rw [List.map_cons, List.nodup_cons]
      refine ⟨?_, ih _⟩
      intro hmem
      obtain ⟨d, hd, hname⟩ := List.mem_map.mp hmem
      exact (mem_of_mem_untaken hd).2 (hname ▸ List.mem_cons_self)

/-- A name that is not taken has the column that is the first of the name. -/
lemma Column.find?_untaken {taken : List String} (h : name ∉ taken) :
    (untaken taken columns).find? (·.name == name) = columns.find? (·.name == name) := by
  induction columns generalizing taken with
  | nil => rfl
  | cons c cs ih =>
    rw [untaken, List.find?_cons]
    split
    · next hc =>
      -- A dropped column has a name that is taken, and the sought name is not.
      have hne : (c.name == name) = false := by
        rw [beq_eq_false_iff_ne]
        rintro rfl
        exact h hc
      rw [hne]
      exact ih h
    · rw [List.find?_cons]
      cases hname : c.name == name with
      | true => rfl
      | false =>
        refine ih fun hmem => ?_
        rcases List.mem_cons.mp hmem with rfl | hmem
        · simp at hname
        · exact h hmem

namespace Table

/-- A table with the keys behind its columns that have names of their own. -/
def withKeys (t : Table) (keys : List Column) (h : ∀ key ∈ keys, key.length = t.height) : Table where
  columns := t.columns ++ Column.untaken t.names keys
  sameHeight := by
    have hheight : ∀ c ∈ t.columns ++ Column.untaken t.names keys, c.length = t.height := by
      intro c hc
      rcases List.mem_append.mp hc with hc | hc
      · exact length_of_mem hc
      · exact h c (Column.mem_of_mem_untaken hc).1
    intro c hc d hd
    rw [hheight c hc, hheight d hd]
  distinctNames := by
    rw [Column.DistinctNames, List.map_append, List.nodup_append]
    refine ⟨t.distinctNames, Column.nodup_untaken _ _, ?_⟩
    rintro _ hname _ hkey rfl
    obtain ⟨key, hmem, rfl⟩ := List.mem_map.mp hkey
    exact (Column.mem_of_mem_untaken hmem).2 hname

lemma height_withKeys (h : ∀ key ∈ keys, key.length = t.height) {row : Nat} (hrow : row < t.height) :
    (t.withKeys keys h).height = t.height := by
  obtain ⟨c, cs, hcolumns⟩ := List.exists_cons_of_ne_nil (columns_ne_nil hrow)
  have hmem : c ∈ (t.withKeys keys h).columns :=
    List.mem_append_left _ (hcolumns ▸ List.mem_cons_self)
  rw [← length_of_mem hmem, length_of_mem (hcolumns ▸ List.mem_cons_self)]

/-- A name stands for the column of the table, or else for the first key of that name. -/
lemma column?_withKeys (h : ∀ key ∈ keys, key.length = t.height) :
    (t.withKeys keys h).column? name = (t.column? name).or (keys.find? (·.name == name)) := by
  show (t.columns ++ Column.untaken t.names keys).find? (·.name == name) = _
  rw [List.find?_append]
  show (t.column? name).or _ = _
  cases hfind : t.column? name with
  | some c => rfl
  | none => rw [Option.none_or, Option.none_or, Column.find?_untaken (column?_eq_none_iff.mp hfind)]

lemma mem_names_withKeys (h : ∀ key ∈ keys, key.length = t.height) :
    name ∈ (t.withKeys keys h).names ↔ name ∈ t.names ∨ name ∈ keys.map Column.name := by
  rw [← not_iff_not, ← column?_eq_none_iff, column?_withKeys, Option.or_eq_none_iff,
    column?_eq_none_iff, not_or, List.find?_eq_none, List.mem_map, not_exists]
  simp

def needed (aggs : List Expr) : List String := (aggs.flatMap Expr.referencedColumns).eraseDups

lemma mem_needed : name ∈ needed aggs ↔ ∃ e ∈ aggs, name ∈ e.references := by
  rw [needed, List.mem_eraseDups, List.mem_flatMap]
  simp only [Expr.mem_referencedColumns]

/-- The table that aggregations are evaluated on is a selection of the columns and keys. -/
lemma project_eq_select (h : ∀ key ∈ keys, key.length = t.height) (aggs : List Expr) :
    t.project keys aggs = (t.withKeys keys h).select (needed aggs) := by
  rw [project, select]
  congr 2
  funext name
  rw [column, column?_withKeys]
  cases t.column? name with
  | some c => rfl
  | none => cases keys.find? (·.name == name) <;> rfl

/-- The aggregations find the columns that they refer to if all of these are columns or keys. -/
lemma exists_project_iff (h : ∀ key ∈ keys, key.length = t.height) :
    (∃ source, t.project keys aggs = .ok source) ↔
      ∀ e ∈ aggs, ∀ name ∈ e.references, name ∈ t.names ∨ name ∈ keys.map Column.name := by
  rw [project_eq_select h]
  constructor
  · rintro ⟨source, hsource⟩ e he name hname
    obtain ⟨c, hc, -⟩ := column?_select hsource name (mem_needed.mpr ⟨e, he, hname⟩)
    rw [← mem_names_withKeys h, ← exists_column_iff]
    exact ⟨c, column_eq_ok_iff.mpr hc⟩
  · intro hnames
    refine exists_select (Expr.nodup_eraseDups _) ?_
    intro name hname
    obtain ⟨e, he, href⟩ := mem_needed.mp hname
    exact (mem_names_withKeys h).mpr (hnames e he name href)

/-- On any rows an aggregation has the same result whether it sees the columns it refers to or all
columns and keys. -/
lemma evaluate_project (h : ∀ key ∈ keys, key.length = t.height)
    (hsource : t.project keys aggs = .ok source) {e : Expr} (he : e ∈ aggs) (rows : List Nat) :
    e.evaluate (source.take rows) = e.evaluate ((t.withKeys keys h).take rows) := by
  refine Expr.evaluate_take_congr ?_ rows
  intro name hname
  rw [project_eq_select h] at hsource
  obtain ⟨c, hc, hc'⟩ := column?_select hsource name (mem_needed.mpr ⟨e, he, hname⟩)
  rw [hc, hc']

end Table
end TimeTable
