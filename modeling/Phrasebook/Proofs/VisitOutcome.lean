import Phrasebook.Proofs.EventOrder

namespace Phrasebook.Collector

/-- The stream of a tree enters every node and recognises every call, once the callee is done and
before the arguments. A visit runs over this stream and stops at the first offending event. Whatever
stops it, the entries of the events before stay in the catalog and nothing else has changed. -/
theorem visit_stops_at_first_offence (tree : Node) (filename : String) (maxDepth : Option Int)
    (catalog : Catalog) :
    let c : Collector := { filename, maxDepth, catalog }
    let clean (es : List Event) : Prop := ∀ e ∈ es, e.offends maxDepth = false
    (tree.events []).Nodup ∧
    (∀ address line, .enter address line ∈ tree.events [] ↔
      ∃ n, tree.at? address = some n ∧ n ≠ .blank ∧ n.line = line) ∧
    (∀ address line func args, .recognize address line func args ∈ tree.events [] ↔
      ∃ keywords, tree.at? address = some (.call line func args keywords)) ∧
    (∀ before address line func args rest,
      tree.events [] = before ++ .recognize address line func args :: rest →
        (∀ e ∈ before, ∀ i, 0 < i → ¬ address ++ [i] <+: e.address) ∧
        ∀ e ∈ rest, ¬ address ++ [0] <+: e.address) ∧
    (∀ f l m s, visit tree c = .error (.tooDeep f l m) s ↔
      ∃ before address line rest, tree.events [] = before ++ .enter address line :: rest ∧
        clean before ∧ maxDepth = some m ∧ m < address.level ∧
        f = filename ∧ l = line.getD 0 ∧ s = c.storing before) ∧
    (∀ s, visit tree c = .error .callWithoutLine s ↔
      ∃ before address func args rest,
        tree.events [] = before ++ .recognize address none func args :: rest ∧
        clean before ∧ func.marks args = true ∧ s = c.storing before) ∧
    (∀ s, visit tree c = .ok () s ↔ clean (tree.events []) ∧ s = c.storing (tree.events [])) := by
  intro c clean
  have hv : visit tree c = follow (tree.events []) c := visit_eq_follow tree [] c rfl
  rw [hv]
  refine ⟨tree.nodup_events [], fun _ _ => Node.enter_mem_events,
    fun _ _ _ _ => Node.recognize_mem_events, fun _ _ _ _ _ _ => Node.recognize_between,
    fun f l m s => ?_, fun s => ?_, follow_eq_ok_iff _ c⟩
  · rw [follow_eq_error_iff]
    constructor
    · rintro ⟨before, e, rest, hes, hb, he, hf, hs⟩
      cases e with
      | recognize => cases hf
      | enter address line =>
        obtain ⟨limit, rfl, hl⟩ := Event.offends_enter_iff.mp he
        cases hf
        exact ⟨before, address, line, rest, hes, hb, rfl, hl, rfl, rfl, hs⟩
    · rintro ⟨before, address, line, rest, hes, hb, rfl, hl, rfl, rfl, rfl⟩
      exact ⟨before, .enter address line, rest, hes, hb, Event.offends_enter_iff.mpr ⟨m, rfl, hl⟩,
        rfl, rfl⟩
  · rw [follow_eq_error_iff]
    constructor
    · rintro ⟨before, e, rest, hes, hb, he, hf, hs⟩
      cases e with
      | enter => cases hf
      | recognize address line func args =>
        obtain ⟨rfl, hm⟩ := Event.offends_recognize_iff.mp he
        exact ⟨before, address, func, args, rest, hes, hb, hm, hs⟩
    · rintro ⟨before, address, func, args, rest, hes, hb, hm, rfl⟩
      exact ⟨before, .recognize address none func args, rest, hes, hb,
        Event.offends_recognize_iff.mpr ⟨rfl, hm⟩, rfl, rfl⟩

end Phrasebook.Collector
