import Phrasebook.Proofs.Coherence

namespace Phrasebook.Catalog

def ofHistory (seeds : List String) (ops : List Operation) : Catalog :=
  ops.foldl Operation.apply (ofSeeds seeds)

theorem coherent_foldl_apply {c : Catalog} (hc : c.Coherent) (ops : List Operation) :
    (ops.foldl Operation.apply c).Coherent := by
  induction ops generalizing c with
  | nil => exact hc
  | cons op ops ih => exact ih (op.coherent_apply hc)

theorem coherent_ofHistory (seeds : List String) (ops : List Operation) :
    (ofHistory seeds ops).Coherent :=
  coherent_foldl_apply (coherent_ofSeeds seeds) ops

theorem prefix_keys_foldl_apply {c : Catalog} (hc : c.Coherent) (ops : List Operation) :
    c.keys <+: (ops.foldl Operation.apply c).keys := by
  induction ops generalizing c with
  | nil => exact List.prefix_rfl
  | cons op ops ih => exact (op.prefix_keys_apply hc).trans (ih (op.coherent_apply hc))

theorem isSome_lookup_seed {seeds : List String} {seed : String} (h : seed ∈ seeds)
    (ops : List Operation) : ((ofHistory seeds ops).keys.lookup seed).isSome := by
  obtain ⟨r, hr⟩ := prefix_keys_foldl_apply (coherent_ofSeeds seeds) ops
  have hs : ((ofSeeds seeds).keys.lookup seed).isSome := by
    rw [ofSeeds_eq, ofKeys, isSome_lookup_zipIdx]
    simpa [List.mem_eraseDups] using h
  rw [ofHistory, ← hr, List.lookup_append]
  simp [hs]

/-- Every history is one of merging alone. -/
theorem foldl_apply_entries {c : Catalog} (hc : c.Coherent) (ops : List Operation) :
    (ops.foldl Operation.apply c).entries =
      (ops.map Operation.candidate).foldl merge c.entries := by
  induction ops generalizing c with
  | nil => rfl
  | cons op ops ih =>
    rw [List.foldl_cons, ih (op.coherent_apply hc), op.apply_entries hc, List.map_cons,
      List.foldl_cons]

theorem ofHistory_entries (seeds : List String) (ops : List Operation) :
    (ofHistory seeds ops).entries =
      (ops.map Operation.candidate).foldl merge (seeds.eraseDups.map Entry.plain) := by
  rw [ofHistory, foldl_apply_entries (coherent_ofSeeds seeds), ofSeeds_eq]
  rfl

theorem entryOf_plain (keys : List String) (key : MessageKey) :
    entryOf (keys.map Entry.plain) key =
      if key ∈ keys.map Entry.plainKey then some (Entry.plain key.2.1) else none := by
  induction keys with
  | nil => rfl
  | cons k keys ih =>
    unfold entryOf at ih ⊢
    by_cases hk : Entry.plainKey k = key
    · subst hk
      simp [Entry.plainKey]
    · simp [hk, Ne.symm hk, ih]

theorem entryOf_ofHistory (seeds : List String) (ops : List Operation) (key : MessageKey) :
    entryOf (ofHistory seeds ops).entries key =
      Entry.gather (entryOf (seeds.eraseDups.map Entry.plain) key)
        ((ops.filter fun op => op.candidate.key = key).map Operation.candidate) := by
  rw [ofHistory_entries, entryOf_foldl_merge, List.filter_map]
  rfl

theorem gather_of_mem_ofHistory {seeds : List String} {ops : List Operation} {e : Entry}
    (he : e ∈ (ofHistory seeds ops).entries) :
    Entry.gather (entryOf (seeds.eraseDups.map Entry.plain) e.key)
      ((ops.filter fun op => op.candidate.key = e.key).map Operation.candidate) = some e := by
  rw [← entryOf_ofHistory]
  exact entryOf_of_mem (coherent_ofHistory seeds ops).nodup he

/-- The catalog of a history in closed form: the seeds come first, each once, and then the other
messages in the order in which they were first named. An entry holds the places of all operations
that name its message, in their order, and the plural text of the first. -/
theorem ofHistory_closed_form (seeds : List String) (ops : List Operation) :
    let entries := (ofHistory seeds ops).entries
    let seedKeys : List MessageKey := seeds.eraseDups.map fun seed => (.normal, seed, none)
    entries.map Entry.key =
        seedKeys ++ ((ops.map (·.candidate.key)).filter (· ∉ seedKeys)).eraseDups ∧
    (∀ e ∈ entries, e.references =
        (ops.filter (·.candidate.key = e.key)).flatMap (·.candidate.references)) ∧
    (∀ e ∈ entries, e.msgidPlural =
        if e.key ∈ seedKeys then none
        else (ops.find? (·.candidate.key = e.key)).bind (·.candidate.msgidPlural)) ∧
    (entries.flatMap Entry.references).length = (ops.flatMap (·.candidate.references)).length := by
  intro entries seedKeys
  have hentries : entries = _ := ofHistory_entries seeds ops
  have hseeds : (seeds.eraseDups.map Entry.plain).map Entry.key = seedKeys := by
    rw [List.map_map]
    rfl
  refine ⟨?_, fun e he => ?_, fun e he => ?_, ?_⟩
  · rw [hentries, keys_foldl_merge, hseeds, List.map_map]
    rfl
  · rw [Entry.references_gather (gather_of_mem_ofHistory he), entryOf_plain, List.flatMap_map]
    split <;> rfl
  · have hk : seeds.eraseDups.map Entry.plainKey = seedKeys := rfl
    rw [Entry.msgidPlural_gather (gather_of_mem_ofHistory he), entryOf_plain, hk]
    split
    · rfl
    · rw [Option.none_or, List.head?_map, List.head?_filter, Option.bind_map]
      rfl
  · have hnone : (seeds.eraseDups.map Entry.plain).flatMap Entry.references = [] := by
      simp [List.flatMap_map, Entry.plain]
    rw [hentries, length_references_foldl_merge, hnone, List.length_nil, Nat.zero_add,
      List.flatMap_map]

end Phrasebook.Catalog
