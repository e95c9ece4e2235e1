import Phrasebook.Proofs.Growth

namespace Phrasebook

namespace Entry

def withPlaces (e : Entry) (places : List String) : Entry :=
  { e with references := e.references ++ places }

@[simp] theorem withPlaces_key (e : Entry) (places : List String) :
    (e.withPlaces places).key = e.key := rfl

@[simp] theorem withPlaces_nil (e : Entry) : e.withPlaces [] = e := by
  simp [withPlaces]

theorem withPlaces_append (e : Entry) (places more : List String) :
    (e.withPlaces places).withPlaces more = e.withPlaces (places ++ more) := by
  simp [withPlaces, List.append_assoc]

theorem mergeComments_of_infix {old added : Option String}
    (h : (added.getD "").toList <:+: (old.getD "").toList) : mergeComments old added = old := by
  by_cases hadded : added.getD "" = ""
  · simp [mergeComments, joinComments, hadded]
  · have hold : old.getD "" ≠ "" := by
      intro hold
      rw [hold] at h
      exact hadded (String.toList_eq_nil_iff.mp (List.infix_nil.mp h))
    exact if_pos ⟨hold, hadded, Text.contains_iff.mpr h⟩

theorem absorb_of_carries {e other : Entry} (h : e.Carries (other.comment.getD "")) :
    e.absorb other = e.withPlaces other.references := by
  rw [absorb, mergeComments_of_infix h]
  rfl

end Entry

namespace Catalog

theorem placesFor_cons (c : Entry) (cs : List Entry) (key : MessageKey) :
    placesFor (c :: cs) key = placesFor [c] key ++ placesFor cs key := by
  by_cases h : c.key = key <;> simp [placesFor, h]

theorem placesFor_singleton (c : Entry) (key : MessageKey) :
    placesFor [c] key = if c.key = key then c.references else [] := by
  by_cases h : c.key = key <;> simp [placesFor, h]

def addPlaces (es cs : List Entry) : List Entry :=
  es.map fun e => e.withPlaces (placesFor cs e.key)

theorem addPlaces_cons (es : List Entry) (c : Entry) (cs : List Entry) :
    addPlaces es (c :: cs) = addPlaces (addPlaces es [c]) cs := by
  simp only [addPlaces, List.map_map]
  apply List.map_congr_left
  intro e _
  simp only [Function.comp_apply, Entry.withPlaces_append, Entry.withPlaces_key,
    ← placesFor_cons]

theorem addPlaces_of_not_mem {es cs : List Entry} (h : ∀ c ∈ cs, c.key ∉ es.map Entry.key) :
    addPlaces es cs = es := by
  have hsame : ∀ e ∈ es, e.withPlaces (placesFor cs e.key) = id e := by
    intro e he
    have hnone : cs.filter (·.key = e.key) = [] := by
      rw [List.filter_eq_nil_iff]
      intro c hc hk
      apply h c hc
      rw [of_decide_eq_true hk]
      exact List.mem_map_of_mem he
    rw [placesFor, hnone]
    exact e.withPlaces_nil
  rw [addPlaces, List.map_congr_left hsame, List.map_id]

theorem merge_of_settled {es : List Entry} (hn : (es.map Entry.key).Nodup) {c : Entry}
    (h : Settled es c) : merge es c = addPlaces es [c] := by
  induction es with
  | nil =>
    obtain ⟨x, hx, -⟩ := h
    cases hx
  | cons x xs ih =>
    rw [List.map_cons, List.nodup_cons] at hn
    have hcons : addPlaces (x :: xs) [c] =
        x.withPlaces (placesFor [c] x.key) :: addPlaces xs [c] := rfl
    rw [merge, hcons, placesFor_singleton]
    obtain ⟨y, hy, hk, hcarries⟩ := h
    by_cases hx : x.key = c.key
    · have hxs : c.key ∉ xs.map Entry.key := hx ▸ hn.1
      -- the head alone is for this message, so it is the one that carries the comment
      have hyx : y = x := by
        obtain rfl | hy := List.mem_cons.mp hy
        · rfl
        · exact absurd (hk ▸ List.mem_map_of_mem hy) hxs
      rw [if_pos hx, if_pos hx.symm, addPlaces_of_not_mem (List.forall_mem_singleton.mpr hxs)]
      rw [hyx] at hcarries
      rw [Entry.absorb_of_carries hcarries]
    · have hyx : y ≠ x := fun hyx => hx (hyx ▸ hk)
      have hsettled : Settled xs c := ⟨y, List.mem_of_ne_of_mem hyx hy, hk, hcarries⟩
      rw [if_neg hx, if_neg (Ne.symm hx), Entry.withPlaces_nil, ih hn.2 hsettled]

/-- Candidates that are settled bring nothing but their places. -/
theorem foldl_merge_of_settled {es cs : List Entry} (hn : (es.map Entry.key).Nodup)
    (h : ∀ c ∈ cs, Settled es c) : cs.foldl merge es = addPlaces es cs := by
  induction cs generalizing es with
  | nil => exact (addPlaces_of_not_mem (by simp)).symm
  | cons c cs ih =>
    rw [List.forall_mem_cons] at h
    have hn' := nodup_keys_merge hn c
    -- what is settled stays so while the candidates before it are merged
    have hs' : ∀ d ∈ cs, Settled (merge es c) d := by
      intro d hd
      exact (extends_merge es c).settled (h.2 d hd)
    rw [List.foldl_cons, ih hn' hs', merge_of_settled hn h.1, ← addPlaces_cons]

end Catalog

namespace Collector

theorem passed_withCatalog (c : Collector) (tree : Node) (catalog : Catalog) :
    (c.withCatalog catalog).passed tree = c.passed tree := by
  obtain ⟨-, fault, hrun⟩ := visit_spec c tree
  have hrecording : visit tree (c.withCatalog catalog).recording = _ := (hrun catalog []).2
  rw [passed, hrecording, final_ending]
  exact List.nil_append _

theorem afterVisit_eq (c : Collector) (tree : Node) :
    c.afterVisit tree = c.withCatalog ((c.passed tree).foldl Catalog.store c.catalog) :=
  afterVisit_withCatalog c tree c.catalog

/-- To visit a tree again at once ends as before and adds no entry. Each entry gets the very places
once more that the first visit brought for it, and nothing else about it changes. -/
theorem revisit_adds_only_places (filename : String) (seeds : List String)
    (maxDepth : Option Int) (earlier : List Step) (limit : Option Int) (tree : Node) :
    let c : Collector := { session filename seeds maxDepth earlier with maxDepth := limit }
    let once := c.afterVisit tree
    let twice := once.afterVisit tree
    fault? (visit tree once) = fault? (visit tree c) ∧
    ∃ added : MessageKey → List String,
      (∀ e ∈ once.catalog.entries, e.references =
        (Catalog.entryOf c.catalog.entries e.key).elim [] Entry.references ++ added e.key) ∧
      twice.catalog.entries = once.catalog.entries.map fun e =>
        { e with references := e.references ++ added e.key } := by
  intro c once twice
  have hn : (c.catalog.entries.map Entry.key).Nodup :=
    (session_coherent filename seeds maxDepth earlier).nodup
  have honce : once = c.withCatalog ((c.passed tree).foldl Catalog.store c.catalog) :=
    c.afterVisit_eq tree
  have hentries : once.catalog.entries =
      (c.passed tree).foldl Catalog.merge c.catalog.entries := by
    rw [honce]
    exact Catalog.foldl_store_entries c.catalog (c.passed tree)
  have hpassed : once.passed tree = c.passed tree := by
    rw [honce, passed_withCatalog]
  refine ⟨?_, Catalog.placesFor (c.passed tree), fun e he => ?_, ?_⟩
  · rw [honce]
    exact fault?_visit_withCatalog c tree _
  · rw [hentries] at he
    exact Catalog.references_foldl_merge hn he
  · have htwice : twice.catalog.entries =
        (c.passed tree).foldl Catalog.merge once.catalog.entries := by
      have h := congrArg (·.catalog.entries) (once.afterVisit_eq tree)
      rw [hpassed] at h
      exact h.trans (Catalog.foldl_store_entries once.catalog (c.passed tree))
    rw [htwice]
    apply Catalog.foldl_merge_of_settled
    · rw [hentries]
      exact Catalog.nodup_keys_foldl_merge hn (c.passed tree)
    · rw [hentries]
      exact Catalog.settled_foldl_merge c.catalog.entries

/-- Both visits are stopped behind the use of an old message and of a new one. -/
theorem revisit_adds_only_places_stopped :
    let tree : Node := .other none
      [.marked 1 "a" "new", .marked 2 "b" "", .other (some 3) [.marked 4 "c" ""]]
    let c : Collector :=
      { session "f" [] none [.visit (.marked 9 "a" "old")] with maxDepth := some 3 }
    let once := c.afterVisit tree
    let twice := once.afterVisit tree
    fault? (visit tree c) = some (.tooDeep "f" 4 3) ∧
    fault? (visit tree once) = some (.tooDeep "f" 4 3) ∧
    once.catalog.entries.map Entry.references = [["f:9", "f:1"], ["f:2"]] ∧
    once.catalog.entries.map Entry.comment = [some "old\nnew", none] ∧
    twice.catalog.entries.map Entry.references = [["f:9", "f:1", "f:1"], ["f:2", "f:2"]] ∧
    twice.catalog.entries.map Entry.comment = [some "old\nnew", none] := by
  intro tree c once twice
  obtain ⟨hfault, added, -, htwice⟩ := revisit_adds_only_places "f" [] none
    [.visit (.marked 9 "a" "old")] (some 3) tree
  have hstopped : fault? (visit tree c) = some (.tooDeep "f" 4 3) := by decide +kernel
  have hcomments : once.catalog.entries.map Entry.comment = [some "old\nnew", none] := by
    decide +kernel
  refine ⟨hstopped, hfault.trans hstopped, by decide +kernel, hcomments, by decide +kernel, ?_⟩
  rw [htwice, List.map_map]
  exact hcomments

end Collector

end Phrasebook
