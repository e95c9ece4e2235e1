import Phrasebook.Collector

namespace Phrasebook

/-- The way from the root of a tree down to a node, as the numbers of the children to take. -/
abbrev Address := List Nat

def Address.level (address : Address) : Int := address.length + 1

namespace Node

/-- The nodes directly below a node, in the order in which they are visited. The callee of a call
is its first child. -/
def children : Node → List Node
  | .attribute _ value _ => [value]
  | .joined _ values => values
  | .binary _ left op right => [left, op, right]
  | .sequence _ items => items
  | .call _ func args keywords => func :: (args ++ keywords)
  | .other _ children => children
  | _ => []

def IsPlain : Node → Prop
  | .blank | .call .. => False
  | _ => True

/-- What has to be shown to know `P` of every tree and `Q` of every list of trees: all plain nodes
are one case, whatever their sort. -/
structure Traversal (P : Node → Prop) (Q : List Node → Prop) : Prop where
  blank : P .blank
  plain : ∀ n : Node, n.IsPlain → Q n.children → P n
  call : ∀ line func args keywords, P func → Q args → Q keywords →
    P (.call line func args keywords)
  nil : Q []
  cons : ∀ n ns, P n → Q ns → Q (n :: ns)

namespace Traversal

variable {P : Node → Prop} {Q : List Node → Prop}

mutual

theorem node (t : Traversal P Q) : ∀ n, P n
  | .blank => t.blank
  | .plus _ => t.plain _ trivial t.nil
  | .constant _ _ => t.plain _ trivial t.nil
  | .name _ _ => t.plain _ trivial t.nil
  | .attribute _ value _ => t.plain _ trivial (t.cons _ _ (node t value) t.nil)
  | .joined _ values => t.plain _ trivial (list t values)
  | .binary _ left op right =>
    t.plain _ trivial
      (t.cons _ _ (node t left) (t.cons _ _ (node t op) (t.cons _ _ (node t right) t.nil)))
  | .sequence _ items => t.plain _ trivial (list t items)
  | .call line func args keywords =>
    t.call line func args keywords (node t func) (list t args) (list t keywords)
  | .other _ children => t.plain _ trivial (list t children)

theorem list (t : Traversal P Q) : ∀ ns, Q ns
  | [] => t.nil
  | n :: ns => t.cons n ns (node t n) (list t ns)

end

end Traversal

theorem induction_on_children {P : Node → Prop} (step : ∀ n, (∀ m ∈ n.children, P m) → P n)
    (n : Node) : P n := by
  have t : Traversal P (fun ns => ∀ m ∈ ns, P m) := {
    blank := step _ (by simp [children])
    plain := fun n _ h => step n h
    call := by
      intro line func args keywords hf ha hk
      apply step
      simp only [children, List.forall_mem_cons, List.forall_mem_append]
      exact ⟨hf, ha, hk⟩
    nil := by simp
    cons := fun n ns hn hns => List.forall_mem_cons.mpr ⟨hn, hns⟩ }
  exact t.node n

def at? (n : Node) : Address → Option Node
  | [] => some n
  | i :: address => n.children[i]? >>= fun child => child.at? address

end Node

namespace Collector

theorem visit_plain {σ : Type} [EntryStore σ] (n : Node) (h : n.IsPlain) :
    (visit n : Visit σ Unit) = deeper n.line (visitAll n.children) := by
  cases n with
  | blank | call => exact h.elim
  | _ => simp [visit, visitAll, Node.children, Node.line]

end Collector

end Phrasebook
