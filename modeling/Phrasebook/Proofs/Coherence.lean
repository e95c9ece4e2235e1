import Phrasebook.Proofs.Merging

namespace Phrasebook

inductive Operation where
  | insert (candidate : Entry)
  | insertKey (key place : String)

namespace Operation

def apply (c : Catalog) : Operation → Catalog
  | .insert candidate => c.store candidate
  | .insertKey key place => (c.insertKey key place).1

/-- The entry that an operation brings: a bare key comes without a comment. -/
def candidate : Operation → Entry
  | .insert candidate => candidate
  | .insertKey key place => { Entry.plain key with references := [place] }

theorem absorb_insertKey (e : Entry) (key place : String) :
    e.absorb (insertKey key place).candidate =
      { e with references := e.references ++ [place] } := by
  simp [candidate, Entry.absorb, Entry.mergeComments, Entry.joinComments, Entry.plain]

end Operation

namespace Catalog

/-- No message has two entries, and the positions of bare keys are right. -/
structure Coherent (c : Catalog) : Prop where
  nodup : (c.entries.map Entry.key).Nodup
  located : ∀ key i, (key, i) ∈ c.keys →
    (c.entries.map Entry.key)[i]? = some (Entry.plainKey key)

theorem Coherent.getElem? {c : Catalog} (hc : c.Coherent) {key : String} {i : Nat}
    (h : (key, i) ∈ c.keys) : ∃ e, c.entries[i]? = some e ∧ e.key = Entry.plainKey key := by
  simpa using hc.located key i h

theorem getElem?_of_prefix {α : Type} {as bs : List α} (h : as <+: bs) {i : Nat} {a : α}
    (ha : as[i]? = some a) : bs[i]? = some a := by
  obtain ⟨r, rfl⟩ := h
  rw [List.getElem?_append_left (List.getElem?_eq_some_iff.mp ha).1]
  exact ha

theorem Coherent.extend {c d : Catalog} (hc : c.Coherent) (hk : d.keys = c.keys)
    (hp : c.entries.map Entry.key <+: d.entries.map Entry.key)
    (hn : (d.entries.map Entry.key).Nodup) : d.Coherent := by
  refine ⟨hn, fun key i h => ?_⟩
  rw [hk] at h
  exact getElem?_of_prefix hp (hc.located key i h)

theorem Coherent.store {c : Catalog} (hc : c.Coherent) (e : Entry) : (c.store e).Coherent := by
  apply hc.extend (c.store_keys e)
  · rw [store_entries]
    exact prefix_keys_merge c.entries e
  · rw [store_entries]
    exact nodup_keys_merge hc.nodup e

theorem Coherent.remember {c : Catalog} (hc : c.Coherent) {key : String} {i : Nat}
    (h : (c.entries.map Entry.key)[i]? = some (Entry.plainKey key)) :
    Coherent { c with keys := c.keys ++ [(key, i)] } := by
  refine ⟨hc.nodup, fun k j hk => ?_⟩
  obtain hk | hk := List.mem_append.mp hk
  · exact hc.located k j hk
  · cases List.mem_singleton.mp hk
    exact h

theorem mem_of_lookup {keys : List (String × Nat)} {key : String} {i : Nat}
    (h : keys.lookup key = some i) : (key, i) ∈ keys := by
  obtain ⟨l, r, rfl, -⟩ := List.lookup_eq_some_iff.mp h
  simp

/-- What finding the place of a bare key does: the place is known afterwards, and an entry is made
only for a message that had none. -/
theorem locate_spec {c : Catalog} (hc : c.Coherent) (key : String) :
    (c.locate key).1.Coherent ∧ (key, (c.locate key).2) ∈ (c.locate key).1.keys ∧
      c.keys <+: (c.locate key).1.keys ∧
      ((c.locate key).1.entries = c.entries ∨
        (c.locate key).1.entries = c.entries ++ [Entry.plain key] ∧
          Entry.plainKey key ∉ c.entries.map Entry.key) := by
  unfold locate
  cases hl : c.keys.lookup key with
  | some i => exact ⟨hc, mem_of_lookup hl, List.prefix_rfl, .inl rfl⟩
  | none =>
    cases hf : c.find? (Entry.plain key) with
    | some i =>
      exact ⟨hc.remember (getElem?_of_findIdx? hf), by simp, List.prefix_append _ _, .inl rfl⟩
    | none =>
      have hn : Entry.plainKey key ∉ c.entries.map Entry.key := findIdx?_eq_none.mp hf
      have hs : c.store (Entry.plain key) =
          { c with entries := c.entries ++ [Entry.plain key] } := by
        simp [Catalog.store, insert, hf]
      have hc' := hc.store (Entry.plain key)
      rw [hs] at hc'
      exact ⟨hc'.remember (by simp), by simp, List.prefix_append _ _, .inr ⟨rfl, hn⟩⟩

theorem insertKey_eq_merge_locate {c : Catalog} (hc : c.Coherent) (key place : String) :
    (c.insertKey key place).1.entries =
      merge (c.locate key).1.entries (Operation.insertKey key place).candidate := by
  obtain ⟨hd, hm, -⟩ := locate_spec hc key
  rw [merge_eq_modify (findIdx?_of_getElem? hd.nodup (hd.located key _ hm))]
  simp only [Operation.absorb_insertKey]
  rfl

theorem insertKey_entries {c : Catalog} (hc : c.Coherent) (key place : String) :
    (c.insertKey key place).1.entries =
      merge c.entries (Operation.insertKey key place).candidate := by
  rw [insertKey_eq_merge_locate hc]
  obtain ⟨-, -, -, he | ⟨he, hn⟩⟩ := locate_spec hc key
  · rw [he]
  · have hne : (Operation.insertKey key place).candidate.key ∉ c.entries.map Entry.key := hn
    have hk : (Entry.plain key).key = (Operation.insertKey key place).candidate.key := rfl
    rw [he, merge_append hne, merge_eq_append hne, merge, if_pos hk, Operation.absorb_insertKey]
    rfl

theorem Coherent.insertKey {c : Catalog} (hc : c.Coherent) (key place : String) :
    (c.insertKey key place).1.Coherent := by
  obtain ⟨hd, -⟩ := locate_spec hc key
  have hk : (c.insertKey key place).1.keys = (c.locate key).1.keys := rfl
  apply hd.extend hk
  · rw [insertKey_eq_merge_locate hc]
    exact prefix_keys_merge _ _
  · rw [insertKey_eq_merge_locate hc]
    exact nodup_keys_merge hd.nodup _

end Catalog

namespace Operation

theorem apply_entries {c : Catalog} (hc : c.Coherent) (op : Operation) :
    (op.apply c).entries = Catalog.merge c.entries op.candidate := by
  cases op with
  | insert e => exact c.store_entries e
  | insertKey key place => exact Catalog.insertKey_entries hc key place

theorem coherent_apply {c : Catalog} (hc : c.Coherent) (op : Operation) :
    (op.apply c).Coherent := by
  cases op with
  | insert e => exact hc.store e
  | insertKey key place => exact hc.insertKey key place

/-- A remembered position is never forgotten. -/
theorem prefix_keys_apply {c : Catalog} (hc : c.Coherent) (op : Operation) :
    c.keys <+: (op.apply c).keys := by
  cases op with
  | insert e =>
    have hk : (apply c (.insert e)).keys = c.keys := c.store_keys e
    exact hk ▸ List.prefix_rfl
  | insertKey key place => exact (Catalog.locate_spec hc key).2.2.1

end Operation

namespace Catalog

def ofKeys (keys : List String) : Catalog :=
  { entries := keys.map Entry.plain, keys := keys.zipIdx }

theorem isSome_lookup_zipIdx (keys : List String) (key : String) (n : Nat) :
    ((keys.zipIdx n).lookup key).isSome = decide (key ∈ keys) := by
  induction keys generalizing n with
  | nil => rfl
  | cons k keys ih =>
    rw [List.zipIdx_cons, List.lookup_cons]
    by_cases hk : key = k
    · simp [hk]
    · have hb : (key == k) = false := by simpa using hk
      simp [hb, hk, ih]

theorem addSeed_ofKeys (keys : List String) (seed : String) :
    (ofKeys keys).addSeed seed = ofKeys (appendNew keys seed) := by
  have hl : ((ofKeys keys).keys.lookup seed).isSome = decide (seed ∈ keys) :=
    isSome_lookup_zipIdx keys seed 0
  rw [addSeed, hl, appendNew]
  by_cases h : seed ∈ keys
  · simp [h]
  · simp [h, ofKeys, List.zipIdx_append]

theorem ofSeeds_eq (seeds : List String) : ofSeeds seeds = ofKeys seeds.eraseDups := by
  have hf : ∀ keys, seeds.foldl addSeed (ofKeys keys) = ofKeys (seeds.foldl appendNew keys) := by
    induction seeds with
    | nil => exact fun _ => rfl
    | cons seed seeds ih =>
      intro keys
      rw [List.foldl_cons, addSeed_ofKeys, ih, List.foldl_cons]
  have h := hf []
  rw [foldl_appendNew] at h
  simpa [ofSeeds, ofKeys, empty] using h

theorem ofSeeds_entries (seeds : List String) :
    (ofSeeds seeds).entries = seeds.eraseDups.map Entry.plain := by
  rw [ofSeeds_eq]
  rfl

theorem coherent_ofSeeds (seeds : List String) : (ofSeeds seeds).Coherent := by
  rw [ofSeeds_eq]
  have hk : (ofKeys seeds.eraseDups).entries.map Entry.key =
      seeds.eraseDups.map Entry.plainKey := by
    simp [ofKeys]
  refine ⟨?_, fun key i h => ?_⟩
  · rw [hk]
    refine List.pairwise_map.mpr ((nodup_eraseDups seeds).imp fun hne heq => hne ?_)
    simpa [Entry.plainKey] using heq
  · rw [hk, List.getElem?_map, List.mem_zipIdx_iff_getElem?.mp h]
    rfl

end Catalog

end Phrasebook
