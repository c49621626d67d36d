import TimeTable.Expr.Basic

/-!
# Listings of expressions

An expression laid out flat: a list of nodes in which an operation names its operands by their places.
A listing grows at its end. An operation on one operand is put behind the listing of that operand;
one on two operands has the listing of the right operand put behind that of the left one, with all
places moved up, and comes last.
-/

namespace TimeTable

/-- A node whose operands are of type `α`: places in a listing, or results. -/
inductive Expr.Node (α : Type) where
  | col (name : String)
  | lit (value : Scalar)
  | named (input : α) (name : String)
  | temporal (input : α) (op : TemporalOp)
  | compare (left : α) (op : Comparison) (right : α)
  | arithmetic (left : α) (op : Arithmetic) (right : α)
  | reduce (input : α) (func : Reducer)

namespace Expr.Node

variable {α β : Type}

/-- The node with a function applied to its operands. -/
def map (f : α → β) : Node α → Node β
  | col name => col name
  | lit value => lit value
  | named input name => named (f input) name
  | temporal input op => temporal (f input) op
  | compare left op right => compare (f left) op (f right)
  | arithmetic left op right => arithmetic (f left) op (f right)
  | reduce input func => reduce (f input) func

def operands : Node α → List α
  | col _ => []
  | lit _ => []
  | named input _ => [input]
  | temporal input _ => [input]
  | compare left _ right => [left, right]
  | arithmetic left _ right => [left, right]
  | reduce input _ => [input]

/-- The node with a function that may have no result applied to its operands from left to right. -/
def traverse? (f : α → Option β) : Node α → Option (Node β)
  | col name => some (col name)
  | lit value => some (lit value)
  | named input name => do some (named (← f input) name)
  | temporal input op => do some (temporal (← f input) op)
  | compare left op right => do some (compare (← f left) op (← f right))
  | arithmetic left op right => do some (arithmetic (← f left) op (← f right))
  | reduce input func => do some (reduce (← f input) func)

def reference? : Node α → Option String
  | col name => some name
  | _ => none

/-- The name that a node gives to its column, or else the operand whose name it keeps. -/
def naming : Node α → String ⊕ α
  | col name => .inl name
  | lit _ => .inl literalName
  | named _ name => .inl name
  | temporal input _ => .inr input
  | compare left _ _ => .inr left
  | arithmetic left _ _ => .inr left
  | reduce input _ => .inr input

/-- Whether a node gives a single value, if it is known of its operands. -/
def isScalar : Node Bool → Bool
  | col _ => false
  | lit _ => true
  | named input _ => input
  | temporal input _ => input
  | compare left _ right => left && right
  | arithmetic left _ right => left && right
  | reduce _ _ => true

/-- A node as text, with the texts of its operands. -/
def text : Node String → String
  | col name => "col(\"" ++ name ++ "\")"
  | lit value => "lit(" ++ value.display ++ ")"
  | named input name => input ++ ".alias(\"" ++ name ++ "\")"
  | temporal input op => input ++ ".dt." ++ op.display
  | compare left op right => binaryText left op.symbol right
  | arithmetic left op right => binaryText left op.symbol right
  | reduce input func => input ++ "." ++ func.name ++ "()"

end Expr.Node

/-- An expression laid out flat, with the place of its outermost operation. -/
structure Expr.Listing where
  nodes : List (Expr.Node Nat)
  root : Nat

namespace Expr.Listing

def leaf (node : Node Nat) : Listing := ⟨[node], 0⟩

/-- A listing with an operation on it put behind it. -/
def unary (input : Listing) (make : Nat → Node Nat) : Listing :=
  ⟨input.nodes ++ [make input.root], input.nodes.length⟩

/-- Two listings one behind the other, with an operation on both put behind them. -/
def binary (left right : Listing) (make : Nat → Nat → Node Nat) : Listing :=
  let shift := left.nodes.length
  ⟨left.nodes ++ right.nodes.map (Node.map (· + shift)) ++ [make left.root (right.root + shift)],
    shift + right.nodes.length⟩

/-- The result of the node at a place, computed from those of its operands. These have to stand at
earlier places. -/
def foldAt? {α : Type} (step : Node α → α) (listing : Listing) (place : Nat) : Option α := do
  let node ← listing.nodes[place]?
  let results ← node.traverse? fun operand =>
    if _h : operand < place then foldAt? step listing operand else none
  some (step results)
termination_by place

def fold? {α : Type} (step : Node α → α) (listing : Listing) : Option α :=
  listing.foldAt? step listing.root

/-- The name of the column of the node at a place, looked for along the operands whose names are
kept. -/
def outputNameAt? (listing : Listing) (place : Nat) : Option String := do
  match (← listing.nodes[place]?).naming with
  | .inl name => some name
  | .inr operand => if _h : operand < place then listing.outputNameAt? operand else none
termination_by place

/-- The name of the column that a listing gives. -/
def outputName? (listing : Listing) : Option String := listing.outputNameAt? listing.root

/-- Whether a listing gives a single value. -/
def isScalar? (listing : Listing) : Option Bool := listing.fold? Node.isScalar

def display? (listing : Listing) : Option String := listing.fold? Node.text

/-- The names of the columns that the nodes refer to, each once, in the order of the listing. -/
def referencedColumns (listing : Listing) : List String :=
  (listing.nodes.filterMap Node.reference?).eraseDups

end Expr.Listing

namespace Expr

def listing : Expr → Listing
  | col name => .leaf (.col name)
  | lit value => .leaf (.lit value)
  | named input name => input.listing.unary (.named · name)
  | temporal input op => input.listing.unary (.temporal · op)
  | compare left op right => left.listing.binary right.listing (.compare · op ·)
  | arithmetic left op right => left.listing.binary right.listing (.arithmetic · op ·)
  | reduce input func => input.listing.unary (.reduce · func)

/-- The value of an expression computed from the inside out. -/
def fold {α : Type} (step : Node α → α) : Expr → α
  | col name => step (.col name)
  | lit value => step (.lit value)
  | named input name => step (.named (input.fold step) name)
  | temporal input op => step (.temporal (input.fold step) op)
  | compare left op right => step (.compare (left.fold step) op (right.fold step))
  | arithmetic left op right => step (.arithmetic (left.fold step) op (right.fold step))
  | reduce input func => step (.reduce (input.fold step) func)

end Expr
end TimeTable
