import TimeTable.Proofs.Plan.Select

/-!
# Columns put into a table

A column put into a table takes the place of the one with its name, or comes behind all others. So columns
put in one after the other keep the names that are there and add the new ones in the order in which they
first appear, and under each name stands the last column of this name. The columns of expressions are put in
with the height of the table: they can be brought to it also after they have been brought to the greatest of
their heights.
-/

namespace TimeTable

variable {t u out : Table} {e : Expr} {exprs : List Expr} {columns : List Column} {c d : Column}
  {name : String} {m n : Nat}

/-! ### Heights -/

/-- Beside a single row the greatest of the heights of expressions is one row or that of the table. -/
lemma Column.greatestHeight_eq_or (hlengths : ∀ d ∈ columns, d.length = 1 ∨ d.length = n)
    (hc : c ∈ columns) (hone : c.length = 1) :
    greatestHeight columns = 1 ∨ greatestHeight columns = n := by
  -- The greatest height is reached by a column of the table, unless there is none or it has no rows.
  by_cases hreach : n ≠ 0 ∧ ∃ d ∈ columns, d.length = n
  · right
    apply greatestHeight_eq
    · intro d hd
      rcases hlengths d hd with h | h
      · exact h ▸ Nat.one_le_iff_ne_zero.mpr hreach.1
      · exact Nat.le_of_eq h
    · exact hreach.2
  · left
    apply greatestHeight_eq
    · intro d hd
      rcases hlengths d hd with h | h
      · exact Nat.le_of_eq h
      · have hzero : n = 0 := Decidable.not_not.mp fun hn => hreach ⟨hn, d, hd, h⟩
        rw [h, hzero]
        exact Nat.zero_le 1
    · exact ⟨c, hc, hone⟩

/-- A column may be brought to one row or to a height before it is brought to this height. -/
lemma Column.broadcast_broadcast (h : c.length = 1 → m = 1 ∨ m = n) :
    (c.broadcast m).broadcast n = c.broadcast n := by
  by_cases hone : c.length = 1
  · rcases h hone with rfl | rfl
    · rw [broadcast_one]
    · rw [broadcast_of_length_eq (c := c.broadcast m)]
      rw [broadcast_eq_take hone, length_take, List.length_replicate]
  · rw [broadcast.eq_def c m, if_neg fun h => hone h.1]

namespace Table

/-- The columns of expressions can be brought to the height of the table also after they have been
brought to the greatest of their heights. -/
lemma broadcast_greatestHeight
    (hall : List.Forall₂ (fun e c => e.evaluate t = .ok c) exprs columns) (hc : c ∈ columns) :
    (c.broadcast (Column.greatestHeight columns)).broadcast t.height = c.broadcast t.height := by
  have hlengths : ∀ d ∈ columns, d.length = 1 ∨ d.length = t.height := by
    intro d hd
    obtain ⟨e, -, hlength⟩ := exists_length_eq hall hd
    rw [hlength]
    cases e.isScalar with
    | true => exact .inl rfl
    | false => exact .inr rfl
  exact Column.broadcast_broadcast fun hone => Column.greatestHeight_eq_or hlengths hc hone

/-! ### One column -/

lemma mem_putColumn (c : Column) (columns : List Column) : c ∈ putColumn c columns := by
  induction columns with
  | nil => exact List.mem_cons_self
  | cons d ds ih =>
    rw [putColumn]
    split
    · exact List.mem_cons_self
    · exact List.mem_cons_of_mem d ih

lemma eq_or_mem_of_mem_putColumn (h : d ∈ putColumn c columns) : d = c ∨ d ∈ columns := by
  induction columns with
  | nil => exact .inl (List.mem_singleton.mp h)
  | cons a as ih =>
    rw [putColumn] at h
    split at h
    · exact (List.mem_cons.mp h).imp_right (List.mem_cons_of_mem a)
    · rcases List.mem_cons.mp h with rfl | h
      · exact .inr List.mem_cons_self
      · exact (ih h).imp_right (List.mem_cons_of_mem a)

lemma map_name_putColumn (c : Column) (columns : List Column) :
    (putColumn c columns).map Column.name =
      if c.name ∈ columns.map Column.name then columns.map Column.name
      else columns.map Column.name ++ [c.name] := by
  induction columns with
  | nil => rfl
  | cons d ds ih =>
    rw [putColumn]
    by_cases hname : d.name = c.name
    · rw [if_pos hname, List.map_cons, List.map_cons, hname, if_pos List.mem_cons_self]
    · have hmem : c.name ∈ (d :: ds).map Column.name ↔ c.name ∈ ds.map Column.name := by
        rw [List.map_cons, List.mem_cons, or_iff_right (Ne.symm hname)]
      rw [if_neg hname, List.map_cons, ih, List.map_cons]
      simp only [← List.map_cons, hmem]
      split
      · rfl
      · rfl

lemma find?_name_cons (d : Column) (ds : List Column) (name : String) :
    (d :: ds).find? (·.name == name) =
      if d.name = name then some d else ds.find? (·.name == name) := by
  by_cases h : d.name = name
  · rw [if_pos h, List.find?_cons_of_pos (by simpa using h)]
  · rw [if_neg h, List.find?_cons_of_neg (by simpa using h)]

lemma find?_putColumn (c : Column) (columns : List Column) (name : String) :
    (putColumn c columns).find? (·.name == name) =
      if c.name = name then some c else columns.find? (·.name == name) := by
  induction columns with
  | nil => exact find?_name_cons c [] name
  | cons d ds ih =>
    rw [putColumn]
    split
    · next hname =>
      rw [find?_name_cons, find?_name_cons, hname]
      split
      · rfl
      · rfl
    · next hname =>
      rw [find?_name_cons, find?_name_cons, ih]
      split
      · next hd => rw [if_neg fun hc => hname (hd.trans hc.symm)]
      · rfl

/-! ### Columns one after the other -/

/-- The names among the given ones that are not there yet, each once, in order of appearance. -/
def newNames (there names : List String) : List String :=
  (names.filter fun name => name ∉ there).eraseDups

/-- A name that comes first stands in front of the new ones, unless it is there. -/
lemma append_newNames_cons (there : List String) (name : String) (names : List String) :
    there ++ newNames there (name :: names) =
      (if name ∈ there then there else there ++ [name]) ++
        newNames (if name ∈ there then there else there ++ [name]) names := by
  rw [newNames]
  split
  · next h => rw [List.filter_cons_of_neg (by simpa using h), newNames]
  · next h =>
    rw [List.filter_cons_of_pos (by simpa using h), List.eraseDups_cons, List.filter_filter,
      List.append_assoc, List.singleton_append, newNames]
    congr 3
    refine List.filter_congr fun other _ => ?_
    rw [Bool.eq_iff_iff]
    simp [and_comm]

/-- What has become of a table into which columns were put one after the other: it has its height and its
names, behind them the new ones, and under each name the last column of this name. -/
structure Puts (columns : List Column) (t u : Table) : Prop where
  height_eq : u.height = t.height
  names_eq : u.names = t.names ++ newNames t.names (columns.map Column.name)
  column?_eq (name : String) :
    u.column? name = (columns.reverse.find? (·.name == name)).or (t.column? name)

lemma Puts.nil (t : Table) : Puts [] t t := ⟨rfl, (List.append_nil _).symm, fun _ => rfl⟩

lemma exists_withColumn (h : c.length = t.height) :
    ∃ u, t.withColumn c = .ok u ∧ u.height = t.height ∧
      (u.names = if c.name ∈ t.names then t.names else t.names ++ [c.name]) ∧
      ∀ name, u.column? name = if c.name = name then some c else t.column? name := by
  have hlength : ∀ d ∈ putColumn c t.columns, d.length = t.height := by
    intro d hd
    rcases eq_or_mem_of_mem_putColumn hd with rfl | hd
    · exact h
    · exact length_of_mem hd
  have hnames : Column.DistinctNames (putColumn c t.columns) := by
    rw [Column.DistinctNames, map_name_putColumn]
    split
    · exact t.distinctNames
    · next hnew =>
      exact List.nodup_append.mpr ⟨t.distinctNames, List.nodup_singleton _, by
        rintro a ha b hb rfl
        exact hnew (List.mem_singleton.mp hb ▸ ha)⟩
  obtain ⟨u, hu⟩ := exists_ofColumns_iff.mpr
    ⟨fun a ha b hb => (hlength a ha).trans (hlength b hb).symm, hnames⟩
  have hcolumns := ofColumns_eq_ok_iff.mp hu
  refine ⟨u, hu, ?_, ?_, ?_⟩
  · rw [← length_of_mem (hcolumns ▸ mem_putColumn c t.columns), h]
  · rw [names, hcolumns]
    exact map_name_putColumn c t.columns
  · intro name
    rw [column?, hcolumns]
    exact find?_putColumn c t.columns name

/-- Columns of the height of a table can be put into it. -/
lemma exists_puts (h : ∀ c ∈ columns, c.length = t.height) :
    ∃ out, columns.foldlM (fun u c => u.withColumn c) t = .ok out ∧ Puts columns t out := by
  induction columns generalizing t with
  | nil => exact ⟨t, rfl, .nil t⟩
  | cons c cs ih =>
    rw [List.forall_mem_cons] at h
    obtain ⟨u, hu, hheight, hnames, hcolumn⟩ := exists_withColumn h.1
    obtain ⟨out, hout, hputs⟩ := ih fun d hd => (h.2 d hd).trans hheight.symm
    refine ⟨out, ?_, hputs.height_eq.trans hheight, ?_, ?_⟩
    · rw [List.foldlM_cons, hu, ok_bind, hout]
    · rw [hputs.names_eq, List.map_cons, append_newNames_cons, hnames]
    · intro name
      rw [hputs.column?_eq, hcolumn, List.reverse_cons, List.find?_append, Option.or_assoc,
        find?_name_cons]
      split
      · rfl
      · rfl

/-! ### Columns of expressions -/

/-- Columns of expressions are put into a table one after the other, each brought to its height. -/
lemma withExprs_eq (hall : List.Forall₂ (fun e c => e.evaluate t = .ok c) exprs columns) :
    t.withExprs exprs =
      (columns.map (·.broadcast t.height)).foldlM (fun u c => u.withColumn c) t := by
  have hbroadcast : (columns.map (·.broadcast (Column.greatestHeight columns))).map
      (·.broadcast t.height) = columns.map (·.broadcast t.height) := by
    rw [List.map_map]
    exact List.map_congr_left fun c hc => broadcast_greatestHeight hall hc
  rw [← hbroadcast, List.foldlM_map, withExprs, evaluateAll, mapM_eq_ok_iff.mpr hall]
  rfl

/-- Columns of expressions can be put into a table if each can be evaluated on it. -/
lemma exists_withExprs (hall : List.Forall₂ (fun e c => e.evaluate t = .ok c) exprs columns) :
    ∃ out, t.withExprs exprs = .ok out ∧
      ∃ puts, Puts puts t out ∧ List.Forall₂ (fun e c => e.Selected t t.height c) exprs puts := by
  have hselected : List.Forall₂ (fun e c => e.Selected t t.height c) exprs
      (columns.map (·.broadcast t.height)) := by
    rw [List.forall₂_map_right_iff]
    exact hall.imp fun e c h => Expr.selected_broadcast h (.inr rfl)
  obtain ⟨out, hout, hputs⟩ := exists_puts fun c hc => by
    obtain ⟨e, -, h⟩ := exists_mem_of_forall₂_right hselected hc
    exact h.length_eq (.inr rfl)
  exact ⟨out, (withExprs_eq hall).trans hout, _, hputs, hselected⟩

lemma exists_evaluate_of_withExprs (h : t.withExprs exprs = .ok out) :
    ∃ columns, List.Forall₂ (fun e c => e.evaluate t = .ok c) exprs columns := by
  obtain ⟨_, hall, -⟩ := bind_eq_ok.mp h
  obtain ⟨columns, hcolumns, -⟩ := bind_eq_ok.mp hall
  exact ⟨columns, mapM_eq_ok_iff.mp hcolumns⟩

/-- What is put into a table stands for the expressions. -/
lemma puts_of_withExprs (h : t.withExprs exprs = .ok out) :
    ∃ puts, Puts puts t out ∧ List.Forall₂ (fun e c => e.Selected t t.height c) exprs puts := by
  obtain ⟨columns, hall⟩ := exists_evaluate_of_withExprs h
  obtain ⟨u, hu, hputs⟩ := exists_withExprs hall
  obtain rfl := Except.ok.inj (hu.symm.trans h)
  exact hputs

lemma height_withExprs (h : t.withExprs exprs = .ok out) : out.height = t.height := by
  obtain ⟨puts, hputs, -⟩ := puts_of_withExprs h
  exact hputs.height_eq

end Table

/-- An expression is the last one of its name among expressions. -/
def Expr.IsLast (e : Expr) (exprs : List Expr) : Prop :=
  ∃ before after, exprs = before ++ e :: after ∧ ∀ e' ∈ after, e'.outputName ≠ e.outputName

namespace Table

/-- Of columns that stand for expressions the last one with a name stands for the last expression of this
name. -/
lemma find?_reverse_rel (hselected : List.Forall₂ (fun e c => e.Selected t n c) exprs columns)
    (name : String) :
    Option.Rel (fun e c => e.Selected t n c) (exprs.reverse.find? (·.outputName == name))
      (columns.reverse.find? (·.name == name)) := by
  refine find?_of_forall₂ (List.forall₂_reverse_iff.mpr hselected) fun e c h => ?_
  rw [h.name_eq]

lemma find?_outputName_eq_none (h : ∀ e ∈ exprs, e.outputName ≠ name) :
    exprs.find? (·.outputName == name) = none := by
  rw [List.find?_eq_none]
  intro e he
  simpa using h e he

lemma find?_reverse_of_isLast (h : e.IsLast exprs) :
    exprs.reverse.find? (·.outputName == e.outputName) = some e := by
  obtain ⟨before, after, rfl, hafter⟩ := h
  have hnone : after.reverse.find? (·.outputName == e.outputName) = none :=
    find?_outputName_eq_none fun e' he' => hafter e' (List.mem_reverse.mp he')
  rw [List.reverse_append, List.reverse_cons, List.append_assoc, List.find?_append, hnone,
    Option.none_or]
  exact List.find?_cons_of_pos (beq_self_eq_true _)

/-- Columns of expressions can be put into a table if and only if each expression can be evaluated on it. The
result has the height of the table and its names in place, behind them the new names of the expressions in
the order in which they first appear. Under a name of an expression stands what the last expression of this
name gives on the table itself, a single value being repeated in every row, and under any other name what
was there before. -/
theorem run_withColumns_iff {input : Plan} (hinput : input.run = .ok t) :
    ((∃ out, (Plan.withColumns input exprs).run = .ok out) ↔
      ∀ e ∈ exprs, ∃ c, e.evaluate t = .ok c) ∧
    ∀ out, (Plan.withColumns input exprs).run = .ok out →
      out.height = t.height ∧
      out.names = t.names ++ newNames t.names (exprs.map Expr.outputName) ∧
      (∀ e : Expr, e.IsLast exprs →
        ∃ c, out.column? e.outputName = some c ∧ e.Selected t t.height c) ∧
      ∀ name, (∀ e ∈ exprs, e.outputName ≠ name) → out.column? name = t.column? name := by
  have hrun : (Plan.withColumns input exprs).run = t.withExprs exprs := by
    rw [Plan.run, hinput, ok_bind]
  rw [hrun]
  refine ⟨⟨?_, ?_⟩, ?_⟩
  · rintro ⟨out, hout⟩ e he
    obtain ⟨columns, hall⟩ := exists_evaluate_of_withExprs hout
    obtain ⟨c, -, hc⟩ := exists_mem_of_forall₂ hall he
    exact ⟨c, hc⟩
  · intro heval
    obtain ⟨columns, hcolumns⟩ := exists_mapM_eq_ok_iff.mpr heval
    obtain ⟨out, hout, -⟩ := exists_withExprs (mapM_eq_ok_iff.mp hcolumns)
    exact ⟨out, hout⟩
  · intro out hout
    obtain ⟨puts, hputs, hselected⟩ := puts_of_withExprs hout
    refine ⟨hputs.height_eq, ?_, ?_, ?_⟩
    · rw [hputs.names_eq, map_eq_of_forall₂ hselected fun e c h => h.name_eq]
    · intro e hlast
      -- A name is looked up among the columns that were put, from the last one on, before the table.
      have hrel := find?_reverse_rel hselected e.outputName
      rw [find?_reverse_of_isLast hlast] at hrel
      rw [hputs.column?_eq]
      generalize puts.reverse.find? (·.name == e.outputName) = found at hrel ⊢
      cases hrel with
      | some h => exact ⟨_, rfl, h⟩
    · intro name hname
      have hrel := find?_reverse_rel hselected name
      rw [find?_outputName_eq_none fun e he => hname e (List.mem_reverse.mp he)] at hrel
      rw [hputs.column?_eq]
      generalize puts.reverse.find? (·.name == name) = found at hrel ⊢
      cases hrel with
      | none => rfl

/-- A maximum put in the place of the column that it is the maximum of, and two columns of one new name, of
which the second one stays. -/
theorem run_withColumns_iff_replaced :
    let exprs : List Expr :=
      [.reduce (.col "n") .max, .named (.col "n") "m", .named (.lit (.int64 7)) "m"]
    ∃ t out : Table, t.columns = [⟨"n", .int64, [some 1, none, some 3]⟩] ∧
      (Plan.scan t).run = .ok t ∧ (Plan.withColumns (.scan t) exprs).run = .ok out ∧
      out.height = t.height ∧ out.names = ["n", "m"] ∧
      out.column? "n" = some ⟨"n", .int64, [some 3, some 3, some 3]⟩ ∧
      out.column? "m" = some ⟨"m", .int64, [some 7, some 7, some 7]⟩ := by
  intro exprs
  let t : Table :=
    { columns := [⟨"n", .int64, [some 1, none, some 3]⟩]
      sameHeight := by simp [Column.SameHeight]
      distinctNames := by simp [Column.DistinctNames] }
  have ht : (Plan.scan t).run = .ok t := rfl
  have heval : ∀ e ∈ exprs, ∃ c, e.evaluate t = .ok c := List.forall_mem_cons.mpr ⟨⟨_, rfl⟩,
    List.forall_mem_cons.mpr ⟨⟨_, rfl⟩, List.forall_mem_singleton.mpr ⟨_, rfl⟩⟩⟩
  obtain ⟨out, hout⟩ := (run_withColumns_iff ht).1.mpr heval
  obtain ⟨hheight, hnames, hlast, -⟩ := (run_withColumns_iff ht).2 out hout
  obtain ⟨c, hc, d, hd, rfl⟩ := hlast (.reduce (.col "n") .max)
    ⟨[], [.named (.col "n") "m", .named (.lit (.int64 7)) "m"], rfl, by simp [Expr.outputName]⟩
  obtain rfl := Except.ok.inj hd
  obtain ⟨c', hc', d', hd', rfl⟩ := hlast (.named (.lit (.int64 7)) "m")
    ⟨[.reduce (.col "n") .max, .named (.col "n") "m"], [], rfl, by simp⟩
  obtain rfl := Except.ok.inj hd'
  exact ⟨t, out, rfl, ht, hout, hheight, hnames, hc, hc'⟩

end Table
end TimeTable
