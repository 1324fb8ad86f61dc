/-!
# Identifiers of nodes and edges

Nodes and edges are numbered from zero in the order in which they are added, in 32 bits. The two kinds of number are
different types, so that neither is taken for the other where both travel together.

* **Small indices survive** (`index_ofIndex`): an identifier gives back the index it was made from, if 32 bits hold it.
* **Identifiers are their indices** (`index_inj`).
-/

namespace Roadside

inductive Kind where
  | node
  | edge
  deriving DecidableEq

/-- The word that introduces an identifier of this kind in a text. -/
def Kind.word : Kind → String
  | .node => "NodeId"
  | .edge => "EdgeId"

/-- The number of a node or of an edge. -/
structure Ident (kind : Kind) where
  val : UInt32
  deriving DecidableEq

/-- A place where edges meet. -/
abbrev NodeId := Ident .node

/-- A stretch of road between two nodes. -/
abbrev EdgeId := Ident .edge

namespace Ident

variable {kind : Kind}

/-- The position of the named thing in the order of adding. -/
def index (i : Ident kind) : Nat := i.val.toNat

/-- The identifier of the thing at a position; positions that 32 bits do not hold wrap around. -/
def ofIndex (n : Nat) : Ident kind := ⟨n.toUInt32⟩

/-- The greatest identifier stands for a place that nothing fills. -/
def unset : Ident kind := ⟨0xFFFFFFFF⟩

instance : Ord (Ident kind) := ⟨fun a b => compare a.val b.val⟩

/-- The kind, then the number in parentheses. -/
def text (i : Ident kind) : String := kind.word ++ "(" ++ toString i.index ++ ")"

theorem index_lt (i : Ident kind) : i.index < UInt32.size := i.val.toNat_lt

@[simp] theorem index_ofIndex {n : Nat} (h : n < UInt32.size) : (ofIndex n : Ident kind).index = n :=
  Nat.mod_eq_of_lt h

theorem index_ofIndex_le (n : Nat) : (ofIndex n : Ident kind).index ≤ n := Nat.mod_le ..

@[simp] theorem ofIndex_index (i : Ident kind) : ofIndex i.index = i := by
  simp [ofIndex, index]

theorem ofIndex_inj {m n : Nat} (hm : m < UInt32.size) (hn : n < UInt32.size) :
    (ofIndex m : Ident kind) = ofIndex n ↔ m = n :=
  ⟨fun h => by rw [← index_ofIndex hm, h, index_ofIndex hn], fun h => h ▸ rfl⟩

theorem index_inj {i j : Ident kind} : i.index = j.index ↔ i = j :=
  ⟨fun h => by rw [← ofIndex_index i, h, ofIndex_index], fun h => h ▸ rfl⟩

end Ident

end Roadside
