import Phrasebook.Proofs.CatalogHistory
import Phrasebook.Proofs.EventStream

namespace Phrasebook

/-- A step in the life of a collector: a visit, or a change to its catalog from outside. -/
inductive Step where
  | visit (tree : Node)
  | change (op : Operation)

namespace Collector

def afterVisit (c : Collector) (tree : Node) : Collector :=
  final (visit tree c)

def step (c : Collector) : Step → Collector
  | .visit tree => c.afterVisit tree
  | .change op => { c with catalog := op.apply c.catalog }

def session (filename : String) (seeds : List String) (maxDepth : Option Int) (steps : List Step) :
    Collector :=
  steps.foldl step (start filename seeds maxDepth)

/-- A visit changes nothing but the catalog, and that only by storing entries. -/
theorem afterVisit_eq_storing (c : Collector) (tree : Node) :
    ∃ es, es <+: tree.events (List.replicate c.depth 0) ∧ c.afterVisit tree = c.storing es := by
  obtain ⟨stored, fault, hp, hrun⟩ := follow_eq_ending (tree.events (List.replicate c.depth 0)) c
  refine ⟨stored, hp, ?_⟩
  rw [afterVisit, visit_eq_follow tree (List.replicate c.depth 0) c (by simp), hrun, final_ending]

end Collector

namespace Catalog

theorem store_eq_apply (c : Catalog) (es : List Entry) :
    es.foldl store c = (es.map Operation.insert).foldl Operation.apply c := by
  rw [List.foldl_map]
  rfl

end Catalog

namespace Collector

theorem step_catalog (c : Collector) (s : Step) :
    ∃ ops : List Operation, (c.step s).catalog = ops.foldl Operation.apply c.catalog := by
  cases s with
  | change op => exact ⟨[op], rfl⟩
  | visit tree =>
    obtain ⟨es, -, hs⟩ := afterVisit_eq_storing c tree
    refine ⟨(es.filterMap (·.candidate? c.filename)).map .insert, ?_⟩
    rw [← Catalog.store_eq_apply, step, hs]
    rfl

theorem session_catalog (filename : String) (seeds : List String) (maxDepth : Option Int)
    (steps : List Step) :
    ∃ ops, (session filename seeds maxDepth steps).catalog = Catalog.ofHistory seeds ops := by
  have hr : ∀ c : Collector, ∃ ops : List Operation,
      (steps.foldl step c).catalog = ops.foldl Operation.apply c.catalog := by
    induction steps with
    | nil => exact fun c => ⟨[], rfl⟩
    | cons s steps ih =>
      intro c
      obtain ⟨ops, h⟩ := step_catalog c s
      obtain ⟨ops', h'⟩ := ih (c.step s)
      exact ⟨ops ++ ops', by rw [List.foldl_cons, h', h, List.foldl_append]⟩
  exact hr (start filename seeds maxDepth)

/-- Whatever happens in a session, no message has two entries, every remembered key stands where
its plain entry is, and the seeds are remembered. -/
theorem session_keeps_catalog_coherent (filename : String) (seeds : List String)
    (maxDepth : Option Int) (steps : List Step) :
    let c := (session filename seeds maxDepth steps).catalog
    (c.entries.map Entry.key).Nodup ∧
    (∀ key i, (key, i) ∈ c.keys →
      ∃ e, c.entries[i]? = some e ∧ e.key = (.normal, key, none)) ∧
    (∀ seed ∈ seeds, ∃ i, c.keys.lookup seed = some i) := by
  obtain ⟨ops, h⟩ := session_catalog filename seeds maxDepth steps
  rw [h]
  have hc := Catalog.coherent_foldl_apply (Catalog.coherent_ofSeeds seeds) ops
  exact ⟨hc.nodup, fun key i hk => hc.getElem? hk,
    fun seed hs => Option.isSome_iff_exists.mp (Catalog.isSome_lookup_seed hs ops)⟩

end Collector

end Phrasebook
