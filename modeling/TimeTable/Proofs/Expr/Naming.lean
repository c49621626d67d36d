import TimeTable.Proofs.Expr.Layout

/-!
# Names of expressions

The name of the column that an expression gives is looked for on the way from its outermost operation to
its leftmost leaf. The outermost name given on that way counts; without one it is the name of the leaf,
which is the leftmost column of the expression if it is a column at all. A literal that stands leftmost
ends the way, so that columns to the right of it are not seen.
-/

namespace TimeTable.Expr

/-- The expressions on the way to the leftmost leaf, from the outside in. -/
def leftPath : Expr → List Expr
  | col name => [col name]
  | lit value => [lit value]
  | named input name => named input name :: input.leftPath
  | temporal input op => temporal input op :: input.leftPath
  | compare left op right => compare left op right :: left.leftPath
  | arithmetic left op right => arithmetic left op right :: left.leftPath
  | reduce input func => reduce input func :: input.leftPath

/-- The name that an expression gives anew. -/
def givenName? : Expr → Option String
  | named _ name => some name
  | _ => none

/-- The name of the column that an expression is. -/
def reference? : Expr → Option String
  | col name => some name
  | _ => none

/-- The outermost name given on the way to the leftmost leaf. -/
def outermostName? (e : Expr) : Option String := e.leftPath.findSome? givenName?

/-- The name of the leftmost leaf, if that is a column. -/
def leftmostReference? (e : Expr) : Option String := e.leftPath.findSome? reference?

/-- The name that an expression should have: the outermost one given on the way to the leftmost leaf, or
else that of the leftmost column wherever it stands, or else that of a literal. -/
def expectedName (e : Expr) : String := (e.outermostName?.or e.references.head?).getD literalName

/-- The leftmost leaf comes first among the columns, if it is one. -/
lemma references_of_leftmostReference? {e : Expr} {name : String}
    (h : e.leftmostReference? = some name) : e.references.head? = some name := by
  induction e with
  | col name' => exact h
  | lit v => cases h
  | named input name' ih => exact ih h
  | temporal input op ih => exact ih h
  | reduce input func ih => exact ih h
  | compare left op right ihl => rw [references, List.head?_append, ihl h, Option.some_or]
  | arithmetic left op right ihl => rw [references, List.head?_append, ihl h, Option.some_or]

/-- An expression that gives no name anew has the name of its first operand. -/
lemma outputName_eq (e : Expr) :
    e.outputName = (e.outermostName?.or e.leftmostReference?).getD literalName := by
  induction e with
  | col name => rfl
  | lit v => rfl
  | named input name => rfl
  | temporal input op ih => exact ih
  | reduce input func ih => exact ih
  | compare left op right ihl => exact ihl
  | arithmetic left op right ihl => exact ihl

lemma outputName_eq_expectedName_iff {e : Expr} : e.outputName = e.expectedName ↔
    e.outermostName?.isSome ∨ e.leftmostReference?.isSome ∨
      ∀ name ∈ e.references.head?, name = literalName := by
  rw [outputName_eq, expectedName]
  rcases e.outermostName? with - | given
  · rcases hleft : e.leftmostReference? with - | name
    · rcases e.references.head? with - | name
      · simp
      · simpa using eq_comm
    · rw [references_of_leftmostReference? hleft]
      simp
  · simp

/-- The listing of an expression names its column after the outermost name given on the way to the
leftmost leaf, or else after that leaf if it is a column, which then is the leftmost column of the
expression, or else like a literal. This is the expected name if there is such a given name or such a
column; else it is so only if the expression has no column, or one that is called like a literal. -/
theorem outputName?_eq_expectedName_iff (e : Expr) :
    e.listing.outputName? =
        some ((e.outermostName?.or e.leftmostReference?).getD literalName) ∧
    (∀ name, e.leftmostReference? = some name → e.references.head? = some name) ∧
    (e.listing.outputName? = some e.expectedName ↔
      e.outermostName?.isSome ∨ e.leftmostReference?.isSome ∨
        ∀ name ∈ e.references.head?, name = literalName) := by
  refine ⟨?_, fun name => references_of_leftmostReference?, ?_⟩
  · rw [outputName?_listing, outputName_eq]
  · rw [outputName?_listing, Option.some.injEq, outputName_eq_expectedName_iff]

/-- A column inside a reduction that is compared with a renamed one. -/
theorem outputName?_eq_expectedName_iff_inside :
    let e := (reduce (col "a") .sum).compare .gt (named (col "b") "c")
    e.leftmostReference? = some "a" ∧ e.references.head? = some "a" ∧
      e.listing.outputName? = some "a" ∧ e.expectedName = "a" := by
  intro e
  have hleft : e.leftmostReference? = some "a" := rfl
  obtain ⟨hname, hreferences, hexpected⟩ := outputName?_eq_expectedName_iff e
  have hfollows := hexpected.mpr (.inr (.inl (Option.isSome_of_mem hleft)))
  exact ⟨hleft, hreferences _ hleft, hname, Option.some.inj (hfollows.symm.trans hname)⟩

/-- A literal that stands to the left of a column hides it: the sum of both is called like a literal and
not like the column. -/
theorem outputName?_literal_first :
    let e := (lit (.int64 1)).arithmetic .add (col "a")
    e.listing.outputName? = some literalName ∧ e.expectedName = "a" ∧
      e.listing.outputName? ≠ some e.expectedName := by
  intro e
  have hname : e.listing.outputName? = some literalName := outputName?_listing e
  refine ⟨hname, rfl, ?_⟩
  rw [hname]
  decide

end TimeTable.Expr
