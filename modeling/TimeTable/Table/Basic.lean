import TimeTable.Column.Basic

/-!
# Tables

A table is a list of columns of one height with distinct names. Both are kept by every operation, so
they are part of the type.
-/

namespace TimeTable

/-- Whether all columns have one height. -/
def Column.SameHeight (columns : List Column) : Prop :=
  ∀ c ∈ columns, ∀ d ∈ columns, c.length = d.length

/-- Whether no two columns have one name. -/
def Column.DistinctNames (columns : List Column) : Prop := (columns.map Column.name).Nodup

/-- The first thing that keeps columns behind others from forming a table: a column of another height
than the first one, or with a name that was seen before. -/
def Column.misfit? (height : Nat) (seen : List String) : List Column → Option Fault
  | [] => none
  | c :: cs =>
    if c.length ≠ height then some (.unevenColumn c.name c.length height)
    else if c.name ∈ seen then some (.duplicateColumn c.name)
    else misfit? height (c.name :: seen) cs

theorem Column.misfit?_eq_none {height : Nat} {columns : List Column} {seen : List String}
    (h : misfit? height seen columns = none) :
    (∀ c ∈ columns, c.length = height) ∧ (columns.map name).Nodup ∧
      ∀ c ∈ columns, c.name ∉ seen := by
  induction columns generalizing seen with
  | nil => simp
  | cons c cs ih =>
    rw [misfit?] at h
    split at h
    · exact nomatch h
    · next hl =>
      split at h
      · exact nomatch h
      · next hn =>
        obtain ⟨h1, h2, h3⟩ := ih h
        refine ⟨?_, ?_, ?_⟩
        · intro d hd
          rcases List.mem_cons.1 hd with rfl | hd
          · exact Decidable.not_not.1 hl
          · exact h1 d hd
        · rw [List.map_cons, List.nodup_cons]
          refine ⟨?_, h2⟩
          intro hm
          obtain ⟨d, hd, he⟩ := List.mem_map.1 hm
          exact h3 d hd (he ▸ List.mem_cons_self)
        · intro d hd
          rcases List.mem_cons.1 hd with rfl | hd
          · exact hn
          · exact fun hm => h3 d hd (List.mem_cons_of_mem _ hm)

/-- A table: columns of one height with distinct names. -/
structure Table where
  columns : List Column
  sameHeight : Column.SameHeight columns
  distinctNames : Column.DistinctNames columns

namespace Table

/-- The table without columns. -/
def empty : Table := ⟨[], by simp [Column.SameHeight], by simp [Column.DistinctNames]⟩

/-- The table of the given columns, if they fit together. -/
def ofColumns (columns : List Column) : Except Fault Table :=
  match _h : Column.misfit? ((columns.head?.map Column.length).getD 0) [] columns with
  | some fault => .error fault
  | none => .ok
    { columns
      sameHeight := fun c hc d hd => by
        have h := (Column.misfit?_eq_none _h).1
        rw [h c hc, h d hd]
      distinctNames := (Column.misfit?_eq_none _h).2.1 }

def height (t : Table) : Nat := (t.columns.head?.map Column.length).getD 0

def width (t : Table) : Nat := t.columns.length

def names (t : Table) : List String := t.columns.map Column.name

/-- The column with a name, if there is one. -/
def column? (t : Table) (name : String) : Option Column := t.columns.find? (·.name == name)

def contains (t : Table) (name : String) : Bool := t.columns.any (·.name == name)

def column (t : Table) (name : String) : Except Fault Column :=
  match t.column? name with
  | some c => .ok c
  | none => .error (.columnNotFound name)

def row (t : Table) (n : Nat) : List Scalar := t.columns.map (·.get n)

def rows (t : Table) : List (List Scalar) := (List.range t.height).map t.row

/-- The table made of the given rows in the given order. -/
def take (t : Table) (rows : List Nat) : Table where
  columns := t.columns.map (·.take rows)
  sameHeight := by
    intro c hc d hd
    obtain ⟨c, _, rfl⟩ := List.mem_map.1 hc
    obtain ⟨d, _, rfl⟩ := List.mem_map.1 hd
    simp
  distinctNames := by
    have h := t.distinctNames
    simpa [Column.DistinctNames, Function.comp_def] using h

/-- The table made of the columns with the given names. -/
def select (t : Table) (names : List String) : Except Fault Table := do
  ofColumns (← names.mapM t.column)

/-- Columns with one put in the place of the one with its name, or at the end. -/
def putColumn (c : Column) : List Column → List Column
  | [] => [c]
  | d :: ds => if d.name = c.name then c :: ds else d :: putColumn c ds

/-- The table with a column put in the place of the one with its name, or at the end. -/
def withColumn (t : Table) (c : Column) : Except Fault Table := ofColumns (putColumn c t.columns)

/-- Equality of tables: equal columns in the same order. -/
def same (t u : Table) : Bool :=
  t.width == u.width && (t.columns.zip u.columns).all fun p => p.1.same p.2

@[simp] theorem columns_take (t : Table) (rows : List Nat) :
    (t.take rows).columns = t.columns.map (·.take rows) := rfl

end Table
end TimeTable
