import Phrasebook.Proofs.Recording
import Phrasebook.Tree.Assembly

namespace Phrasebook

def Node.ofStatements (line : Option Int) (statements : List Node) : Node :=
  assemble "Module" line fun
    | "body" => .nodes statements
    | _ => .nodes []

theorem Node.ofStatements_eq (line : Option Int) (statements : List Node) :
    ofStatements line statements = .other line statements := by
  have hfields : childFields.lookup "Module" = some ["body", "type_ignores"] := by decide
  change Node.other line (((childFields.lookup "Module").getD []).flatMap _) = _
  rw [hfields]
  simp [Part.toNodes]

namespace Collector

theorem visit_ofStatements (line : Option Int) (statements : List Node) :
    (visit (.ofStatements line statements) : Visit Catalog Unit) =
      deeper line (visitAll statements) := by
  rw [Node.ofStatements_eq, visit]

theorem visitAll_append (first second : List Node) :
    (visitAll (first ++ second) : Visit Catalog Unit) =
      (do visitAll first; visitAll second) := by
  induction first with
  | nil =>
    funext c
    rfl
  | cons n ns ih =>
    have hcons : (visitAll (n :: ns) : Visit Catalog Unit) = (do visit n; visitAll ns) := by
      rw [visitAll]
    rw [List.cons_append, visitAll, ih, hcons, bind_assoc]

theorem visitAll_changes_catalog (ns : List Node) {c : Collector} (hc : 0 < c.depth) :
    ∃ fault catalog, visitAll ns c = ending (c.withCatalog catalog) fault := by
  -- any address will do that is as long as the way down to the collector
  let address : Address := List.replicate (c.depth - 1) 0
  have haddress : c.depth = address.length + 1 := by
    simp only [address, List.length_replicate]
    omega
  obtain ⟨stored, fault, -, hrun⟩ := follow_eq_ending (Node.eventsFrom address 0 ns) c
  have hvisit := follows_events.list ns address 0 c haddress
  exact ⟨fault, (c.storing stored).catalog, hvisit.trans hrun⟩

theorem deeper_visitAll_seq (line : Option Int) (first second : List Node) :
    (deeper line (do visitAll first; visitAll second) : Visit Catalog Unit) =
      (do deeper line (visitAll first); deeper line (visitAll second)) := by
  funext c
  cases hl : c.enter.exceeded with
  | some limit => simp [deeper, bind, EStateM.bind, hl]
  | none =>
    obtain ⟨fault, catalog, hx⟩ := visitAll_changes_catalog first (c := c.enter) (Nat.succ_pos _)
    cases fault with
    | some fault => simp [deeper, bind, EStateM.bind, hl, hx, ending]
    | none =>
      -- on leaving the first level only the catalog differs, so the second level is open as well
      have hagain : (c.enter.withCatalog catalog).leave.enter = c.enter.withCatalog catalog := rfl
      have hopen : (c.enter.withCatalog catalog).exceeded = none := hl
      simp [deeper, bind, EStateM.bind, hl, hx, ending, hagain, hopen]

/-- Statements may be visited in two parts, one after the other and with the same collector, unless
the first part is stopped. -/
theorem statements_visited_in_parts (line : Option Int) (first second : List Node)
    (c : Collector) :
    visit (.ofStatements line (first ++ second)) c =
      match visit (.ofStatements line first) c with
      | .ok () s => visit (.ofStatements line second) s
      | .error fault s => .error fault s := by
  rw [visit_ofStatements, visitAll_append, deeper_visitAll_seq, visit_ofStatements,
    visit_ofStatements]
  simp only [bind, EStateM.bind]
  cases deeper line (visitAll first) c <;> rfl

theorem statements_visited_in_parts_merged :
    let first : List Node := [.marked 1 "a" "one", .marked 2 "b" ""]
    let second : List Node := [.marked 3 "a" "two"]
    ∃ s s', visit (.ofStatements none first) (start "f" [] (some 3)) = .ok () s ∧
      visit (.ofStatements none second) s = .ok () s' ∧
      visit (.ofStatements none (first ++ second)) (start "f" [] (some 3)) = .ok () s' ∧
      s'.catalog.entries =
        [{ kind := .normal, msgid := "a", references := ["f:1", "f:3"],
           comment := some "one\ntwo" },
          { kind := .normal, msgid := "b", references := ["f:2"] }] := by
  intro first second
  refine ⟨_, _, rfl, rfl, ?_, by decide +kernel⟩
  exact statements_visited_in_parts none first second (start "f" [] (some 3))

end Collector

end Phrasebook
