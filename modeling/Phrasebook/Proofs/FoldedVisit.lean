import Phrasebook.Proofs.EventStream
import Phrasebook.Proofs.Folding

namespace Phrasebook

namespace Collector

theorem entryFor_fold (filename : String) (line : Option Int) (func : Node) (args : List Node) :
    entryFor filename line func.fold (Node.foldAll args) = entryFor filename line func args := by
  simp only [entryFor, Node.message?_fold]

theorem unplaced_fold (line : Option Int) (func : Node) (args : List Node) :
    unplaced line func.fold (Node.foldAll args) = unplaced line func args := by
  rw [unplaced, unplaced, ← Node.isSome_message?, ← Node.isSome_message?, Node.message?_fold]

theorem storing_fold (c : Collector) (address : Address) (line : Option Int) (func : Node)
    (args : List Node) :
    c.storing [.recognize address line func.fold (Node.foldAll args)] =
      c.storing [.recognize address line func args] := by
  simp only [storing, List.filterMap_cons, Event.candidate?, candidate?, entryFor_fold]

end Collector

/-- The first stream is the second one with some nodes not entered and with the parts of the calls
folded. -/
inductive Thinned : List Event → List Event → Prop
  | nil : Thinned [] []
  | enter (address : Address) (line : Option Int) {fs es : List Event} :
    Thinned fs es → Thinned (.enter address line :: fs) (.enter address line :: es)
  | recognize (address : Address) (line : Option Int) (func : Node) (args : List Node)
    {fs es : List Event} : Thinned fs es →
    Thinned (.recognize address line func.fold (Node.foldAll args) :: fs)
      (.recognize address line func args :: es)
  | unentered (address : Address) (line : Option Int) {fs es : List Event} :
    Thinned fs es → Thinned fs (.enter address line :: es)

namespace Thinned

variable {fs es fs' es' : List Event}

theorem append (h : Thinned fs es) (h' : Thinned fs' es') : Thinned (fs ++ fs') (es ++ es') := by
  induction h with
  | nil => exact h'
  | enter address line _ ih => exact .enter address line ih
  | recognize address line func args _ ih => exact .recognize address line func args ih
  | unentered address line _ ih => exact .unentered address line ih

end Thinned

namespace Node

theorem thinned_nil_eventsFrom {ns : List Node}
    (h : ∀ n ∈ ns, ∀ address, Thinned [] (n.events address)) (address : Address) (i : Nat) :
    Thinned [] (eventsFrom address i ns) := by
  induction ns generalizing i with
  | nil => exact .nil
  | cons n ns ih =>
    rw [List.forall_mem_cons] at h
    rw [eventsFrom]
    exact (h.1 _).append (ih h.2 (i + 1))

theorem thinned_nil_of_text? {n : Node} {s : String} (h : n.text? = some s) (address : Address) :
    Thinned [] (eventsFrom address 0 n.children) := by
  induction n using induction_on_children generalizing s address with
  | step n ih =>
    refine thinned_nil_eventsFrom (fun m hm address => ?_) address 0
    obtain ⟨t, ht⟩ | hplus := text?_children h m hm
    · rw [events_plain address m (isPlain_of_text? ht)]
      exact .unentered address m.line (ih m hm ht address)
    · cases m with
      | plus line => exact .unentered address line .nil
      | _ => cases hplus

theorem thinned_events (tree : Node) (address : Address) :
    Thinned (tree.fold.events address) (tree.events address) := by
  have t : Traversal
      (fun n => ∀ address, Thinned (n.fold.events address) (n.events address))
      (fun ns => ∀ address i, Thinned (eventsFrom address i (foldAll ns))
        (eventsFrom address i ns)) := {
    blank := fun _ => .nil
    plain := by
      intro n hn ih address
      cases h : n.text? with
      | some s =>
        -- the literal is entered in place of the node, and nothing below it
        rw [fold_of_text? h, events_plain address n hn]
        exact .enter address n.line (thinned_nil_of_text? h address)
      | none =>
        obtain ⟨hf, hc⟩ := fold_of_plain hn h
        rw [events_plain address n hn, events_plain address n.fold hf, hc, line_fold]
        exact .enter address n.line (ih address 0)
    call := by
      intro line func args keywords hf ha hk address
      have hlen : (foldAll args).length = args.length := by
        rw [foldAll_eq_map, List.length_map]
      simp only [fold, events, hlen]
      refine .enter address line ((hf _).append ?_)
      exact .recognize address line func args ((ha _ _).append (hk _ _))
    nil := fun _ _ => .nil
    cons := by
      intro n ns hn hns address i
      simp only [foldAll, eventsFrom]
      exact (hn _).append (hns _ _) }
  exact t.node tree address

end Node

namespace Collector

theorem follow_cons (e : Event) (es : List Event) (c : Collector) :
    follow (e :: es) c =
      if e.offends c.maxDepth then .error (e.fault c.filename c.maxDepth) c
      else follow es (c.storing [e]) := rfl

theorem follow_enter_cons (address : Address) (line : Option Int) (es : List Event)
    (c : Collector) :
    follow (.enter address line :: es) c =
      if (Event.enter address line).offends c.maxDepth then
        .error ((Event.enter address line).fault c.filename c.maxDepth) c
      else follow es c := rfl

theorem follow_recognize_fold (address : Address) (line : Option Int) (func : Node)
    (args : List Node) (es : List Event) (c : Collector) :
    follow (.recognize address line func.fold (Node.foldAll args) :: es) c =
      if (Event.recognize address line func args).offends c.maxDepth then .error .callWithoutLine c
      else follow es (c.storing [.recognize address line func args]) := by
  rw [follow_cons, storing_fold, Event.offends, unplaced_fold]
  rfl

/-- Without a limit it does not matter which nodes are entered. -/
theorem follow_thinned {fs es : List Event} (h : Thinned fs es) {c : Collector}
    (hc : c.maxDepth = none) : follow fs c = follow es c := by
  have hopen : ∀ address line, (Event.enter address line).offends c.maxDepth = false := by
    simp [Event.offends, hc]
  induction h generalizing c with
  | nil => rfl
  | enter address line _ ih =>
    rw [follow_enter_cons, follow_enter_cons, ih hc hopen]
  | recognize address line func args _ ih =>
    rw [follow_recognize_fold, follow_cons, ih (c := c.storing _) hc hopen]
    rfl
  | unentered address line _ ih =>
    rw [follow_enter_cons, hopen, ih hc hopen]
    rfl

theorem follow_thinned_ok {fs es : List Event} (h : Thinned fs es) {c s : Collector}
    (hes : follow es c = .ok () s) : follow fs c = .ok () s := by
  induction h generalizing c with
  | nil => exact hes
  | enter address line _ ih =>
    rw [follow_enter_cons] at hes ⊢
    split at hes
    · cases hes
    · rw [if_neg ‹_›]
      exact ih hes
  | recognize address line func args _ ih =>
    rw [follow_cons] at hes
    rw [follow_recognize_fold]
    split at hes
    · cases hes
    · rw [if_neg ‹_›]
      exact ih hes
  | unentered address line _ ih =>
    rw [follow_enter_cons] at hes
    split at hes
    · cases hes
    · exact ih hes

/-- Constant texts may be written as literals before the entries are collected. Without a limit
the visit ends the same way, with the same catalog, and a visit that a limit lets through is still
let through. -/
theorem folding_preserves_visit (tree : Node) (filename : String) (seeds : List String) :
    visit tree.fold (start filename seeds none) = visit tree (start filename seeds none) ∧
    ∀ maxDepth s, visit tree (start filename seeds maxDepth) = .ok () s →
      visit tree.fold (start filename seeds maxDepth) = .ok () s := by
  have hstream : ∀ (n : Node) maxDepth, visit n (start filename seeds maxDepth) =
      follow (n.events []) (start filename seeds maxDepth) :=
    fun n _ => visit_eq_follow n [] _ rfl
  simp only [hstream]
  exact ⟨follow_thinned (tree.thinned_events []) rfl,
    fun maxDepth s => follow_thinned_ok (tree.thinned_events [])⟩

def sumCall : Node :=
  .call (some 1) (.name (some 1) "_")
    [.binary (some 1) (.constant (some 1) (.text "a")) (.plus none)
      (.joined (some 2) [.constant (some 2) (.text "b")])] []

theorem folding_preserves_visit_sum :
    sumCall.fold = .call (some 1) (.name (some 1) "_") [.constant (some 1) (.text "ab")] [] ∧
    ∃ s, visit sumCall (start "f" ["ab"] (some 4)) = .ok () s ∧
      visit sumCall.fold (start "f" ["ab"] (some 4)) = .ok () s ∧
      s.catalog.entries = [{ kind := .normal, msgid := "ab", references := ["f:1"] }] := by
  refine ⟨rfl, _, rfl, ?_, by decide +kernel⟩
  exact (folding_preserves_visit sumCall "f" ["ab"]).2 (some 4) _ rfl

end Collector

end Phrasebook
