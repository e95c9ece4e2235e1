import Phrasebook.Proofs.Session

namespace Phrasebook

/-- A catalog with a record of the entries that were passed to it, in their order. -/
structure Ledger where
  catalog : Catalog
  passed : List Entry := []

instance : EntryStore Ledger := ⟨fun l e => ⟨l.catalog.store e, l.passed ++ [e]⟩⟩

theorem Ledger.foldl_store (l : Ledger) (es : List Entry) :
    es.foldl EntryStore.store l = ⟨es.foldl Catalog.store l.catalog, l.passed ++ es⟩ := by
  induction es generalizing l with
  | nil => simp
  | cons e es ih =>
    rw [List.foldl_cons, ih]
    simp [EntryStore.store]

namespace Collector

def recording (c : Collector) : Collector Ledger := c.withCatalog { catalog := c.catalog }

def passed (c : Collector) (tree : Node) : List Entry :=
  (final (visit tree c.recording)).catalog.passed

def Recognised (filename : String) (e : Entry) : Prop :=
  ∃ line func args, entryFor filename line func args = .ok (some e)

theorem recognised_of_candidate? {filename : String} {e : Entry} {event : Event}
    (h : event.candidate? filename = some e) : Recognised filename e := by
  cases event with
  | enter => cases h
  | recognize address line func args =>
    obtain ⟨l, m, rfl, hm, rfl⟩ := candidate?_eq_some_iff.mp h
    exact ⟨some l, func, args, by simp [entryFor, hm]⟩

theorem storing_ledger (c : Collector Ledger) (es : List Event) :
    (c.storing es).catalog =
      ⟨(es.filterMap (·.candidate? c.filename)).foldl Catalog.store c.catalog.catalog,
        c.catalog.passed ++ es.filterMap (·.candidate? c.filename)⟩ :=
  Ledger.foldl_store _ _

/-- How a visit ends and what it passes on is settled by the tree, the file name, the limit and the
depth. The catalog has no part in it, and nothing else changes. -/
theorem visit_spec (c : Collector) (tree : Node) :
    (∀ e ∈ c.passed tree, Recognised c.filename e) ∧
    ∃ fault : Option Fault, ∀ (catalog : Catalog) (log : List Entry),
      let after := (c.passed tree).foldl Catalog.store catalog
      visit tree (c.withCatalog catalog) = ending (c.withCatalog after) fault ∧
      visit tree (c.withCatalog (⟨catalog, log⟩ : Ledger)) =
        ending (c.withCatalog (⟨after, log ++ c.passed tree⟩ : Ledger)) fault := by
  obtain ⟨stored, fault, -, hrun⟩ := follow_stores (tree.events (List.replicate c.depth 0)) c
  have hvisit : ∀ (τ : Type) [EntryStore τ] (catalog : τ), visit tree (c.withCatalog catalog) =
      ending ((c.withCatalog catalog).storing stored) fault := by
    intro τ _ catalog
    rw [← hrun τ catalog]
    exact visit_eq_follow tree _ _ (by simp [withCatalog])
  have hpassed : c.passed tree = stored.filterMap (·.candidate? c.filename) := by
    rw [passed, recording, hvisit, final_ending, storing_ledger]
    exact List.nil_append _
  rw [hpassed]
  constructor
  · intro e he
    obtain ⟨event, -, h⟩ := List.mem_filterMap.mp he
    exact recognised_of_candidate? h
  · refine ⟨fault, fun catalog log => ⟨hvisit Catalog catalog, ?_⟩⟩
    rw [hvisit Ledger ⟨catalog, log⟩]
    congr 1
    exact congrArg c.withCatalog (storing_ledger (c.withCatalog ⟨catalog, log⟩) stored)

/-- The recording is the visit itself, apart from the record. -/
theorem recording_eq_visit (c : Collector) (tree : Node) :
    let run := visit tree c.recording
    fault? run = fault? (visit tree c) ∧
      (final run).withCatalog (final run).catalog.catalog = final (visit tree c) := by
  intro run
  obtain ⟨-, fault, hrun⟩ := visit_spec c tree
  obtain ⟨hx, hy⟩ := hrun c.catalog []
  rw [withCatalog_self] at hx
  have hrecording : run = _ := hy
  rw [hrecording, hx, fault?_ending, fault?_ending, final_ending, final_ending]
  exact ⟨rfl, rfl⟩

theorem fault?_visit_withCatalog (c : Collector) (tree : Node) (catalog : Catalog) :
    fault? (visit tree (c.withCatalog catalog)) = fault? (visit tree c) := by
  obtain ⟨-, fault, hrun⟩ := visit_spec c tree
  have hx := (hrun c.catalog []).1
  rw [withCatalog_self] at hx
  rw [(hrun catalog []).1, hx, fault?_ending, fault?_ending]

theorem afterVisit_withCatalog (c : Collector) (tree : Node) (catalog : Catalog) :
    (c.withCatalog catalog).afterVisit tree =
      c.withCatalog ((c.passed tree).foldl Catalog.store catalog) := by
  obtain ⟨-, fault, hrun⟩ := visit_spec c tree
  rw [afterVisit, (hrun catalog []).1, final_ending]

theorem step_withCatalog (c : Collector) (catalog : Catalog) (s : Step) :
    ∃ catalog', (c.withCatalog catalog).step s = c.withCatalog catalog' := by
  cases s with
  | visit tree => exact ⟨_, afterVisit_withCatalog c tree catalog⟩
  | change op => exact ⟨op.apply catalog, rfl⟩

theorem session_withCatalog (filename : String) (seeds : List String) (maxDepth : Option Int)
    (steps : List Step) :
    ∃ catalog, session filename seeds maxDepth steps =
      (start filename [] maxDepth).withCatalog catalog := by
  have hr : ∀ catalog, ∃ catalog',
      steps.foldl step ((start filename [] maxDepth).withCatalog catalog) =
        (start filename [] maxDepth).withCatalog catalog' := by
    induction steps with
    | nil => exact fun catalog => ⟨catalog, rfl⟩
    | cons s steps ih =>
      intro catalog
      obtain ⟨catalog', h⟩ := step_withCatalog (start filename [] maxDepth) catalog s
      rw [List.foldl_cons, h]
      exact ih catalog'
  exact hr (Catalog.ofSeeds seeds)

theorem session_visits_catalog (filename : String) (seeds : List String) (maxDepth : Option Int)
    (trees : List Node) :
    (session filename seeds maxDepth (trees.map .visit)).catalog =
      (trees.flatMap (start filename [] maxDepth).passed).foldl Catalog.store
        (Catalog.ofSeeds seeds) := by
  have hr : ∀ catalog,
      (trees.map Step.visit).foldl step ((start filename [] maxDepth).withCatalog catalog) =
        (start filename [] maxDepth).withCatalog
          ((trees.flatMap (start filename [] maxDepth).passed).foldl Catalog.store catalog) := by
    induction trees with
    | nil => exact fun _ => rfl
    | cons tree trees ih =>
      intro catalog
      rw [List.map_cons, List.foldl_cons, step, afterVisit_withCatalog, ih, List.flatMap_cons,
        List.foldl_append]
  exact congrArg Collector.catalog (hr (Catalog.ofSeeds seeds))

/-- What happened before has no influence on a visit. The depth is zero between any two steps of a
session, and a visit ends as it would with a fresh collector and passes on the very entries that
the fresh one does. -/
theorem visit_independent_of_history (filename : String) (seeds : List String)
    (maxDepth : Option Int) (earlier : List Step) (tree : Node) :
    let c := session filename seeds maxDepth earlier
    let fresh := start filename [] maxDepth
    let recording := visit tree fresh.recording
    c.depth = 0 ∧ (∀ s, (c.step s).depth = 0) ∧
    fault? (visit tree c) = fault? (visit tree fresh) ∧
    (fault? recording = fault? (visit tree fresh) ∧
      (final recording).withCatalog (final recording).catalog.catalog =
        final (visit tree fresh)) ∧
    (c.step (.visit tree)).catalog =
      (final recording).catalog.passed.foldl Catalog.store c.catalog := by
  intro c fresh recording
  obtain ⟨catalog, hc⟩ : ∃ catalog, c = fresh.withCatalog catalog :=
    session_withCatalog filename seeds maxDepth earlier
  rw [hc]
  refine ⟨rfl, fun s => ?_, fault?_visit_withCatalog fresh tree catalog,
    recording_eq_visit fresh tree, ?_⟩
  · obtain ⟨catalog', hs⟩ := step_withCatalog fresh catalog s
    rw [hs]
    rfl
  · rw [step, afterVisit_withCatalog]
    rfl

end Collector

end Phrasebook
