import Phrasebook.Proofs.EventStream

namespace Phrasebook

variable (g : Int → Int)

namespace Node

mutual

/-- A tree with other lines: whatever line a node knows is replaced. -/
def relabel : Node → Node
  | .blank => .blank
  | .plus line => .plus (line.map g)
  | .constant line value => .constant (line.map g) value
  | .name line id => .name (line.map g) id
  | .attribute line value attr => .attribute (line.map g) (relabel value) attr
  | .joined line values => .joined (line.map g) (relabelAll values)
  | .binary line left op right =>
    .binary (line.map g) (relabel left) (relabel op) (relabel right)
  | .sequence line items => .sequence (line.map g) (relabelAll items)
  | .call line func args keywords =>
    .call (line.map g) (relabel func) (relabelAll args) (relabelAll keywords)
  | .other line children => .other (line.map g) (relabelAll children)

def relabelAll : List Node → List Node
  | [] => []
  | n :: ns => relabel n :: relabelAll ns

end

theorem relabelAll_eq_map (ns : List Node) : relabelAll g ns = ns.map (relabel g) := by
  induction ns with
  | nil => rfl
  | cons n ns ih => rw [relabelAll, ih, List.map_cons]

theorem relabel_plain {n : Node} (hn : n.IsPlain) :
    (n.relabel g).IsPlain ∧ (n.relabel g).line = n.line.map g ∧
      (n.relabel g).children = relabelAll g n.children := by
  cases n with
  | blank | call => exact hn.elim
  | _ => exact ⟨trivial, rfl, rfl⟩

theorem calleeName_relabel (n : Node) : (n.relabel g).calleeName = n.calleeName := by
  cases n <;> rfl

theorem isPlus_relabel (n : Node) : (n.relabel g).isPlus = n.isPlus := by
  cases n <;> rfl

theorem unwrap_relabel (n : Node) :
    Marker.unwrap (n.relabel g) = (Marker.unwrap n).relabel g := by
  cases n with
  | sequence line items =>
    match items with
    | [] => rfl
    | [item] => rfl
    | a :: b :: rest => rfl
  | _ => rfl

theorem text?_relabel (n : Node) : (n.relabel g).text? = n.text? := by
  induction n using induction_on_children with
  | step n ih =>
    cases n with
    | constant line value => cases value <;> rfl
    | joined line values =>
      have hv : texts? (relabelAll g values) = texts? values := by
        rw [relabelAll_eq_map]
        exact texts?_map ih
      rw [relabel, text?, text?, hv]
    | binary line left op right =>
      simp only [children, List.forall_mem_cons] at ih
      obtain ⟨hl, -, hr, -⟩ := ih
      rw [relabel, text?_binary, text?_binary, isPlus_relabel, hl, hr]
    | _ => rfl

theorem message?_relabel (func : Node) (args : List Node) :
    (func.relabel g).message? (relabelAll g args) = func.message? args := by
  rw [relabelAll_eq_map]
  apply message?_map (text?_relabel g)
  · intro n
    rw [unwrap_relabel, text?_relabel]
  · exact calleeName_relabel g

end Node

namespace Event

def relabel : Event → Event
  | .enter address line => .enter address (line.map g)
  | .recognize address line func args =>
    .recognize address (line.map g) (func.relabel g) (Node.relabelAll g args)

/-- Lines are asked for, but not looked at. -/
theorem offends_relabel (limit : Option Int) (e : Event) :
    (e.relabel g).offends limit = e.offends limit := by
  cases e with
  | enter => rfl
  | recognize address line func args =>
    simp only [relabel, offends, Collector.unplaced, ← Node.isSome_message?,
      Node.message?_relabel, Option.isNone_map]

end Event

theorem Node.events_relabel (tree : Node) (address : Address) :
    (tree.relabel g).events address = (tree.events address).map (Event.relabel g) := by
  have t : Traversal
      (fun n => ∀ address, (n.relabel g).events address = (n.events address).map (Event.relabel g))
      (fun ns => ∀ address i, eventsFrom address i (relabelAll g ns) =
        (eventsFrom address i ns).map (Event.relabel g)) := {
    blank := fun _ => rfl
    plain := by
      intro n hn ih address
      obtain ⟨hplain, hline, hchildren⟩ := relabel_plain g hn
      rw [events_plain address _ hplain, events_plain address n hn, hline, hchildren, ih]
      rfl
    call := by
      intro line func args keywords hf ha hk address
      have hlen : (relabelAll g args).length = args.length := by
        rw [relabelAll_eq_map, List.length_map]
      simp only [relabel, events, hf, ha, hk, hlen, List.map_cons, List.map_append, Event.relabel]
    nil := fun _ _ => rfl
    cons := by
      intro n ns hn hns address i
      simp only [relabelAll, eventsFrom, hn, hns, List.map_append] }
  exact t.node tree address

end Phrasebook
