import Mathlib.Data.List.Perm.Basic
import TimeTable.Proofs.Expr.Shape

/-!
# Layout of listings

The listing of an expression is the expression in post-order: operands stand before their operation, the
outermost operation is the last node, and every other node is the operand of exactly one node. What is
computed along the places of a listing is therefore what is computed on the expression, also for an
operand that was moved behind another listing.
-/

namespace TimeTable.Expr

variable {α β : Type} {e left right : Expr} {start place : Nat}

/-! ### Nodes -/

namespace Node

lemma traverse?_congr {f g : α → Option β} {node : Node α}
    (h : ∀ operand ∈ node.operands, f operand = g operand) :
    node.traverse? f = node.traverse? g := by
  cases node with
  | col name => rfl
  | lit v => rfl
  | named input name => rw [traverse?, traverse?, h input List.mem_cons_self]
  | temporal input op => rw [traverse?, traverse?, h input List.mem_cons_self]
  | reduce input func => rw [traverse?, traverse?, h input List.mem_cons_self]
  | compare left op right =>
    rw [traverse?, traverse?, h left List.mem_cons_self,
      h right (List.mem_cons_of_mem _ List.mem_cons_self)]
  | arithmetic left op right =>
    rw [traverse?, traverse?, h left List.mem_cons_self,
      h right (List.mem_cons_of_mem _ List.mem_cons_self)]

end Node

/-! ### Post-order -/

/-- The number of nodes below the outermost operation. -/
def inner : Expr → Nat
  | col _ => 0
  | lit _ => 0
  | named input _ => input.inner + 1
  | temporal input _ => input.inner + 1
  | compare left _ right => left.inner + 1 + right.inner + 1
  | arithmetic left _ right => left.inner + 1 + right.inner + 1
  | reduce input _ => input.inner + 1

/-- The outermost operation of an expression whose first node stands at a place. -/
def outermost (start : Nat) : Expr → Node Nat
  | col name => .col name
  | lit value => .lit value
  | named input name => .named (start + input.inner) name
  | temporal input op => .temporal (start + input.inner) op
  | compare left op right =>
    .compare (start + left.inner) op (start + left.inner + 1 + right.inner)
  | arithmetic left op right =>
    .arithmetic (start + left.inner) op (start + left.inner + 1 + right.inner)
  | reduce input func => .reduce (start + input.inner) func

/-- The nodes of an expression from a place on, operands before their operation and left operands before
right ones. -/
def postOrder (start : Nat) : Expr → List (Node Nat)
  | col name => [(col name).outermost start]
  | lit value => [(lit value).outermost start]
  | named input name => input.postOrder start ++ [(named input name).outermost start]
  | temporal input op => input.postOrder start ++ [(temporal input op).outermost start]
  | compare left op right =>
    left.postOrder start ++ right.postOrder (start + left.inner + 1) ++
      [(compare left op right).outermost start]
  | arithmetic left op right =>
    left.postOrder start ++ right.postOrder (start + left.inner + 1) ++
      [(arithmetic left op right).outermost start]
  | reduce input func => input.postOrder start ++ [(reduce input func).outermost start]

@[simp] lemma length_postOrder (start : Nat) (e : Expr) :
    (e.postOrder start).length = e.inner + 1 := by
  induction e generalizing start with
  | col name => rfl
  | lit v => rfl
  | named input name ih => simp [postOrder, inner, ih]
  | temporal input op ih => simp [postOrder, inner, ih]
  | compare left op right ihl ihr => simp [postOrder, inner, ihl, ihr]; omega
  | arithmetic left op right ihl ihr => simp [postOrder, inner, ihl, ihr]; omega
  | reduce input func ih => simp [postOrder, inner, ih]

lemma map_outermost (n start : Nat) (e : Expr) :
    (e.outermost start).map (· + n) = e.outermost (start + n) := by
  cases e with
  | col name => rfl
  | lit v => rfl
  | named input name => rw [outermost, outermost, Node.map, Nat.add_right_comm]
  | temporal input op => rw [outermost, outermost, Node.map, Nat.add_right_comm]
  | reduce input func => rw [outermost, outermost, Node.map, Nat.add_right_comm]
  | compare left op right =>
    simp only [outermost, Node.map, Node.compare.injEq, true_and]
    omega
  | arithmetic left op right =>
    simp only [outermost, Node.map, Node.arithmetic.injEq, true_and]
    omega

/-- Moving all places up is starting at a later place. -/
lemma map_postOrder (n start : Nat) (e : Expr) :
    (e.postOrder start).map (Node.map (· + n)) = e.postOrder (start + n) := by
  -- The right operand stands behind all nodes of the left one, so the start varies in the induction.
  have hstart : ∀ start m : Nat, start + m + 1 + n = start + n + m + 1 := by omega
  induction e generalizing start with
  | col name => rfl
  | lit v => rfl
  | named input name ih =>
    rw [postOrder, postOrder, List.map_append, ih, List.map_singleton, map_outermost]
  | temporal input op ih =>
    rw [postOrder, postOrder, List.map_append, ih, List.map_singleton, map_outermost]
  | reduce input func ih =>
    rw [postOrder, postOrder, List.map_append, ih, List.map_singleton, map_outermost]
  | compare left op right ihl ihr =>
    rw [postOrder, postOrder, List.map_append, List.map_append, ihl, ihr, List.map_singleton,
      map_outermost, hstart]
  | arithmetic left op right ihl ihr =>
    rw [postOrder, postOrder, List.map_append, List.map_append, ihl, ihr, List.map_singleton,
      map_outermost, hstart]

/-- The listing of an expression is its post-order from the first place on. -/
lemma listing_eq (e : Expr) : e.listing = ⟨e.postOrder 0, e.inner⟩ := by
  induction e with
  | col name => rfl
  | lit v => rfl
  | named input name ih => simp [listing, ih, Listing.unary, postOrder, outermost, inner]
  | temporal input op ih => simp [listing, ih, Listing.unary, postOrder, outermost, inner]
  | reduce input func ih => simp [listing, ih, Listing.unary, postOrder, outermost, inner]
  -- Only nodes with two operands move places: those of the right operand, by the length of the left one.
  | compare left op right ihl ihr =>
    simp [listing, ihl, ihr, Listing.binary, postOrder, outermost, inner, map_postOrder]
    omega
  | arithmetic left op right ihl ihr =>
    simp [listing, ihl, ihr, Listing.binary, postOrder, outermost, inner, map_postOrder]
    omega

/-! ### Operands -/

/-- Nodes from a place on, the operands of each of which stand at earlier places. -/
def OperandsBefore (start : Nat) (nodes : List (Node Nat)) : Prop :=
  ∀ i node, nodes[i]? = some node → ∀ operand ∈ node.operands, operand < start + i

lemma OperandsBefore.append {xs ys : List (Node Nat)} (hxs : OperandsBefore start xs)
    (hys : OperandsBefore (start + xs.length) ys) : OperandsBefore start (xs ++ ys) := by
  intro i node hnode operand hoperand
  by_cases hi : i < xs.length
  · rw [List.getElem?_append_left hi] at hnode
    exact hxs i node hnode operand hoperand
  · rw [List.getElem?_append_right (Nat.le_of_not_lt hi)] at hnode
    have hlt := hys _ node hnode operand hoperand
    omega

lemma operandsBefore_singleton {node : Node Nat}
    (h : ∀ operand ∈ node.operands, operand < start) : OperandsBefore start [node] := by
  intro i node' hnode operand hoperand
  obtain ⟨rfl, rfl⟩ : i = 0 ∧ node = node' := by
    cases i with
    | zero => exact ⟨rfl, Option.some.inj hnode⟩
    | succ i => exact nomatch hnode
  exact h operand hoperand

/-- The operands of the outermost operation stand among the nodes below it. -/
lemma lt_of_mem_operands_outermost :
    ∀ operand ∈ (e.outermost start).operands, operand < start + e.inner := by
  cases e <;> simp [outermost, Node.operands, inner] <;> omega

lemma OperandsBefore.outermost {nodes : List (Node Nat)} (h : OperandsBefore start nodes)
    (hlength : nodes.length = e.inner) : OperandsBefore start (nodes ++ [e.outermost start]) := by
  refine h.append (operandsBefore_singleton ?_)
  rw [hlength]
  exact lt_of_mem_operands_outermost

lemma operandsBefore_postOrder (start : Nat) (e : Expr) :
    OperandsBefore start (e.postOrder start) := by
  induction e generalizing start with
  | col name => exact operandsBefore_singleton lt_of_mem_operands_outermost
  | lit v => exact operandsBefore_singleton lt_of_mem_operands_outermost
  | named input name ih => exact (ih start).outermost (length_postOrder start input)
  | temporal input op ih => exact (ih start).outermost (length_postOrder start input)
  | reduce input func ih => exact (ih start).outermost (length_postOrder start input)
  | compare left op right ihl ihr =>
    refine ((ihl start).append ?_).outermost ?_
    · rw [length_postOrder]
      exact ihr _
    · rw [List.length_append, length_postOrder, length_postOrder]
      rfl
  | arithmetic left op right ihl ihr =>
    refine ((ihl start).append ?_).outermost ?_
    · rw [length_postOrder]
      exact ihr _
    · rw [List.length_append, length_postOrder, length_postOrder]
      rfl

/-- The places of two operands and of all that stands below them. -/
lemma perm_range'_pair {xs ys : List Nat} {m n : Nat} (hxs : xs.Perm (List.range' start m))
    (hys : ys.Perm (List.range' (start + m + 1) n)) :
    (xs ++ ys ++ [start + m, start + m + 1 + n]).Perm (List.range' start (m + 1 + n + 1)) := by
  have hrange : List.range' start (m + 1 + n + 1) =
      List.range' start m ++ [start + m] ++ List.range' (start + m + 1) n ++ [start + m + 1 + n] := by
    rw [List.range'_1_concat, ← List.range'_append_1, List.range'_1_concat, Nat.add_assoc start m 1,
      Nat.add_assoc start (m + 1) n]
  have hpair : [start + m, start + m + 1 + n] = [start + m] ++ [start + m + 1 + n] := rfl
  rw [hrange, hpair, ← List.append_assoc]
  -- The left operand of the pair has to move before all that stands below the right one.
  refine List.Perm.append_right _ ?_
  rw [List.append_assoc, List.append_assoc]
  exact hxs.append (List.perm_append_comm.trans (List.Perm.append_left _ hys))

/-- Every place below the outermost operation is that of an operand exactly once. -/
lemma operands_postOrder_perm (start : Nat) (e : Expr) :
    ((e.postOrder start).flatMap Node.operands).Perm (List.range' start e.inner) := by
  induction e generalizing start with
  | col name => exact .nil
  | lit v => exact .nil
  -- The operand of the outermost node is the node just before it, the last one that was not named yet.
  | named input name ih =>
    rw [postOrder, List.flatMap_append, inner, List.range'_1_concat]
    exact (ih start).append_right _
  | temporal input op ih =>
    rw [postOrder, List.flatMap_append, inner, List.range'_1_concat]
    exact (ih start).append_right _
  | reduce input func ih =>
    rw [postOrder, List.flatMap_append, inner, List.range'_1_concat]
    exact (ih start).append_right _
  | compare left op right ihl ihr =>
    rw [postOrder, List.flatMap_append, List.flatMap_append]
    exact perm_range'_pair (ihl start) (ihr _)
  | arithmetic left op right ihl ihr =>
    rw [postOrder, List.flatMap_append, List.flatMap_append]
    exact perm_range'_pair (ihl start) (ihr _)

/-! ### Results -/

lemma exists_postOrder_eq (start : Nat) (e : Expr) :
    ∃ nodes, e.postOrder start = nodes ++ [e.outermost start] := by
  cases e with
  | col name => exact ⟨[], rfl⟩
  | lit v => exact ⟨[], rfl⟩
  | _ => exact ⟨_, rfl⟩

lemma getElem?_postOrder (start : Nat) (e : Expr) :
    (e.postOrder start)[e.inner]? = some (e.outermost start) := by
  obtain ⟨nodes, hnodes⟩ := exists_postOrder_eq start e
  have hlength := length_postOrder start e
  rw [hnodes, List.length_append, List.length_singleton, Nat.add_right_cancel_iff] at hlength
  rw [hnodes, ← hlength, List.getElem?_concat_length]

/-- A listing that has the post-order of an expression from a place on. -/
def Listing.Holds (listing : Listing) (e : Expr) (start : Nat) : Prop :=
  ∃ before after, before.length = start ∧ listing.nodes = before ++ e.postOrder start ++ after

namespace Listing

variable {listing : Listing}

/-- The outermost operation stands behind the nodes below it. -/
lemma Holds.getElem? (h : listing.Holds e start) :
    listing.nodes[start + e.inner]? = some (e.outermost start) := by
  obtain ⟨before, after, rfl, hnodes⟩ := h
  have hlt : before.length + e.inner < (before ++ e.postOrder before.length).length := by
    rw [List.length_append, length_postOrder]
    omega
  rw [hnodes, List.getElem?_append_left hlt, List.getElem?_append_right (Nat.le_add_right _ _),
    Nat.add_sub_cancel_left, getElem?_postOrder]

/-- What is part of a post-order is held where the part begins. -/
lemma Holds.part {part : Expr} (xs : List (Node Nat)) {ys : List (Node Nat)}
    (h : listing.Holds e start)
    (hpart : e.postOrder start = xs ++ part.postOrder (start + xs.length) ++ ys) :
    listing.Holds part (start + xs.length) := by
  obtain ⟨before, after, rfl, hnodes⟩ := h
  refine ⟨before ++ xs, ys ++ after, List.length_append, ?_⟩
  rw [hnodes, hpart]
  simp only [List.append_assoc]

lemma Holds.input {input : Expr} {node : Node Nat} (h : listing.Holds e start)
    (hpart : e.postOrder start = input.postOrder start ++ [node]) : listing.Holds input start :=
  h.part [] hpart

lemma Holds.leftOperand {node : Node Nat} (h : listing.Holds e start) (hpart : e.postOrder start =
    left.postOrder start ++ right.postOrder (start + left.inner + 1) ++ [node]) :
    listing.Holds left start :=
  h.part [] (hpart.trans (List.append_assoc _ _ _))

lemma Holds.rightOperand {node : Node Nat} (h : listing.Holds e start) (hpart : e.postOrder start =
    left.postOrder start ++ right.postOrder (start + left.inner + 1) ++ [node]) :
    listing.Holds right (start + left.inner + 1) := by
  have hlength : start + (left.postOrder start).length = start + left.inner + 1 := by
    rw [length_postOrder, Nat.add_assoc]
  rw [← hlength] at hpart ⊢
  exact h.part _ hpart

/-- The result at a place is computed from results at earlier places. -/
lemma foldAt?_eq_some {step : Node α → α} {node : Node Nat} {results : Node α}
    (hnode : listing.nodes[place]? = some node) (hbefore : ∀ operand ∈ node.operands, operand < place)
    (hresults : node.traverse? (foldAt? step listing) = some results) :
    listing.foldAt? step place = some (step results) := by
  have hguard : (node.traverse? fun operand =>
      if _h : operand < place then foldAt? step listing operand else none) = some results := by
    rw [← hresults]
    exact Node.traverse?_congr fun operand hoperand => dif_pos (hbefore operand hoperand)
  -- No operand is cut off, as all of them stand at earlier places.
  rw [foldAt?, hnode]
  show (node.traverse? _ >>= _) = _
  rw [hguard]
  rfl

/-- At the outermost operation of an expression that a listing holds stands the result of the
expression. -/
lemma Holds.foldAt? (step : Node α → α) (h : listing.Holds e start) :
    listing.foldAt? step (start + e.inner) = some (e.fold step) := by
  -- The place varies in the induction, as the right operand stands behind the left one.
  induction e generalizing start with
  | col name => exact foldAt?_eq_some h.getElem? lt_of_mem_operands_outermost rfl
  | lit v => exact foldAt?_eq_some h.getElem? lt_of_mem_operands_outermost rfl
  | named input name ih =>
    refine foldAt?_eq_some h.getElem? lt_of_mem_operands_outermost ?_
    rw [outermost, Node.traverse?, ih (h.input rfl)]
    rfl
  | temporal input op ih =>
    refine foldAt?_eq_some h.getElem? lt_of_mem_operands_outermost ?_
    rw [outermost, Node.traverse?, ih (h.input rfl)]
    rfl
  | reduce input func ih =>
    refine foldAt?_eq_some h.getElem? lt_of_mem_operands_outermost ?_
    rw [outermost, Node.traverse?, ih (h.input rfl)]
    rfl
  | compare left op right ihl ihr =>
    refine foldAt?_eq_some h.getElem? lt_of_mem_operands_outermost ?_
    rw [outermost, Node.traverse?, ihl (h.leftOperand rfl), ihr (h.rightOperand rfl)]
    rfl
  | arithmetic left op right ihl ihr =>
    refine foldAt?_eq_some h.getElem? lt_of_mem_operands_outermost ?_
    rw [outermost, Node.traverse?, ihl (h.leftOperand rfl), ihr (h.rightOperand rfl)]
    rfl

lemma outputNameAt?_eq_some {node : Node Nat} {name : String}
    (hnode : listing.nodes[place]? = some node) (hnaming : node.naming = .inl name) :
    listing.outputNameAt? place = some name := by
  rw [outputNameAt?, hnode]
  simp only [Option.bind_eq_bind, Option.bind_some, hnaming]

lemma outputNameAt?_eq {node : Node Nat} {operand : Nat}
    (hnode : listing.nodes[place]? = some node) (hnaming : node.naming = .inr operand)
    (hbefore : operand < place) :
    listing.outputNameAt? place = listing.outputNameAt? operand := by
  rw [outputNameAt?, hnode]
  simp only [Option.bind_eq_bind, Option.bind_some, hnaming]
  exact dif_pos hbefore

lemma Holds.outputNameAt? (h : listing.Holds e start) :
    listing.outputNameAt? (start + e.inner) = some e.outputName := by
  -- The walk only goes to earlier places, which is what the definition checks in each step.
  have hbefore : ∀ operand ∈ (e.outermost start).operands, operand < start + e.inner :=
    lt_of_mem_operands_outermost
  induction e generalizing start with
  | col name => exact outputNameAt?_eq_some h.getElem? rfl
  | lit v => exact outputNameAt?_eq_some h.getElem? rfl
  | named input name => exact outputNameAt?_eq_some h.getElem? rfl
  | temporal input op ih =>
    rw [outputNameAt?_eq h.getElem? rfl (hbefore _ List.mem_cons_self)]
    exact ih (h.input rfl) lt_of_mem_operands_outermost
  | reduce input func ih =>
    rw [outputNameAt?_eq h.getElem? rfl (hbefore _ List.mem_cons_self)]
    exact ih (h.input rfl) lt_of_mem_operands_outermost
  | compare left op right ihl =>
    rw [outputNameAt?_eq h.getElem? rfl (hbefore _ List.mem_cons_self)]
    exact ihl (h.leftOperand rfl) lt_of_mem_operands_outermost
  | arithmetic left op right ihl =>
    rw [outputNameAt?_eq h.getElem? rfl (hbefore _ List.mem_cons_self)]
    exact ihl (h.leftOperand rfl) lt_of_mem_operands_outermost

end Listing

/-! ### Results of expressions -/

lemma fold_isScalar (e : Expr) : e.fold Node.isScalar = e.isScalar := by
  induction e with
  | col name => rfl
  | lit v => rfl
  | named input name ih => exact ih
  | temporal input op ih => exact ih
  | compare left op right ihl ihr => rw [fold, Node.isScalar, ihl, ihr, isScalar]
  | arithmetic left op right ihl ihr => rw [fold, Node.isScalar, ihl, ihr, isScalar]
  | reduce input func => rfl

lemma fold_text (e : Expr) : e.fold Node.text = e.display := by
  induction e with
  | col name => rfl
  | lit v => rfl
  | named input name ih => rw [fold, Node.text, ih, display]
  | temporal input op ih => rw [fold, Node.text, ih, display]
  | compare left op right ihl ihr => rw [fold, Node.text, ihl, ihr, display]
  | arithmetic left op right ihl ihr => rw [fold, Node.text, ihl, ihr, display]
  | reduce input func ih => rw [fold, Node.text, ih, display]

/-- The references stand in a post-order as they do in the expression. -/
lemma filterMap_reference?_postOrder (start : Nat) (e : Expr) :
    (e.postOrder start).filterMap Node.reference? = e.references := by
  induction e generalizing start with
  | col name => rfl
  | lit v => rfl
  | named input name ih =>
    rw [postOrder, List.filterMap_append, ih]
    exact List.append_nil _
  | temporal input op ih =>
    rw [postOrder, List.filterMap_append, ih]
    exact List.append_nil _
  | reduce input func ih =>
    rw [postOrder, List.filterMap_append, ih]
    exact List.append_nil _
  | compare left op right ihl ihr =>
    rw [postOrder, List.filterMap_append, List.filterMap_append, ihl, ihr]
    exact List.append_nil _
  | arithmetic left op right ihl ihr =>
    rw [postOrder, List.filterMap_append, List.filterMap_append, ihl, ihr]
    exact List.append_nil _

/-! ### Listings -/

/-- A listing that is the post-order of an expression: operands stand before their operation, the
outermost operation is the last node, and every other node is an operand exactly once. -/
structure Listing.IsPostOrder (listing : Listing) (e : Expr) : Prop where
  nodes_eq : listing.nodes = e.postOrder 0
  root_last : listing.root + 1 = listing.nodes.length
  operands_before : ∀ (place : Nat) (node : Node Nat), listing.nodes[place]? = some node →
    ∀ operand ∈ node.operands, operand < place
  operands_once : (listing.nodes.flatMap Node.operands).Perm (List.range listing.root)

/-- A listing from which the same is computed as from an expression. -/
structure Listing.StandsFor (listing : Listing) (e : Expr) : Prop where
  evaluate_eq : ∀ t, listing.evaluate? t = some (e.evaluate t)
  isScalar_eq : listing.isScalar? = some e.isScalar
  outputName_eq : listing.outputName? = some e.outputName
  display_eq : listing.display? = some e.display
  referencedColumns_eq : listing.referencedColumns = e.referencedColumns

lemma isPostOrder_listing (e : Expr) : e.listing.IsPostOrder e := by
  rw [listing_eq]
  refine ⟨rfl, (length_postOrder 0 e).symm, ?_, ?_⟩
  · intro place node hnode operand hoperand
    have hlt := operandsBefore_postOrder 0 e place node hnode operand hoperand
    rwa [Nat.zero_add] at hlt
  · rw [List.range_eq_range']
    exact operands_postOrder_perm 0 e

lemma holds_listing (e : Expr) : e.listing.Holds e 0 := by
  rw [listing_eq]
  exact ⟨[], [], rfl, (List.append_nil _).symm⟩

lemma fold?_listing (step : Node α → α) (e : Expr) :
    e.listing.fold? step = some (e.fold step) := by
  have h := (holds_listing e).foldAt? step
  rw [Nat.zero_add] at h
  rw [Listing.fold?, ← h, listing_eq]

lemma outputName?_listing (e : Expr) : e.listing.outputName? = some e.outputName := by
  have h := (holds_listing e).outputNameAt?
  rw [Nat.zero_add] at h
  rw [Listing.outputName?, ← h, listing_eq]

lemma eval?_listing (e : Expr) (t : Table) : e.listing.eval? t = some (e.eval t) :=
  fold?_listing (evalStep t) e

lemma standsFor_listing (e : Expr) : e.listing.StandsFor e where
  evaluate_eq t := by
    rw [Listing.evaluate?, outputName?_listing, eval?_listing]
    rfl
  isScalar_eq := (fold?_listing _ e).trans (congrArg some (fold_isScalar e))
  outputName_eq := outputName?_listing e
  display_eq := (fold?_listing _ e).trans (congrArg some (fold_text e))
  referencedColumns_eq := by
    rw [Listing.referencedColumns, listing_eq, filterMap_reference?_postOrder, referencedColumns]

lemma binary_listing (left right : Expr) (make : Nat → Nat → Node Nat) :
    left.listing.binary right.listing make = ⟨left.postOrder 0 ++
      right.postOrder (left.inner + 1) ++ [make left.inner (right.inner + (left.inner + 1))],
      left.inner + 1 + (right.inner + 1)⟩ := by
  rw [listing_eq, listing_eq, Listing.binary]
  simp only [length_postOrder, map_postOrder, Nat.zero_add]

/-- A right operand that is put behind a left one has the result that it has by itself. -/
lemma evalAt?_binary (left right : Expr) (make : Nat → Nat → Node Nat) (t : Table) :
    (left.listing.binary right.listing make).evalAt? t
      (right.listing.root + left.listing.nodes.length) = right.listing.eval? t := by
  have hholds : (left.listing.binary right.listing make).Holds right (left.inner + 1) := by
    rw [binary_listing]
    exact ⟨left.postOrder 0, _, length_postOrder 0 left, rfl⟩
  have hplace : right.listing.root + left.listing.nodes.length = left.inner + 1 + right.inner := by
    rw [listing_eq, listing_eq, length_postOrder, Nat.add_comm]
  rw [hplace, eval?_listing]
  exact hholds.foldAt? (evalStep t)

/-- The listing of every expression is its post-order, and from it the same is computed as from the
expression. A right operand that is put behind a left one keeps its column on every table, and the
column at the root has the name of the expression before it is given it. -/
theorem listing_isPostOrder_and_standsFor (e : Expr) :
    e.listing.IsPostOrder e ∧ e.listing.StandsFor e ∧
      (∀ (right : Expr) (make : Nat → Nat → Node Nat) (t : Table),
        (e.listing.binary right.listing make).evalAt? t
          (right.listing.root + e.listing.nodes.length) = right.listing.eval? t) ∧
      ∀ t c, e.listing.eval? t = some (.ok c) → c.name = e.outputName := by
  refine ⟨isPostOrder_listing e, standsFor_listing e, evalAt?_binary e, ?_⟩
  intro t c h
  rw [eval?_listing] at h
  exact (eval_shaped (Option.some.inj h)).name_eq

end TimeTable.Expr
