import Mathlib.Data.List.Forall2
import Phrasebook.Proofs.CatalogHistory

namespace Phrasebook

namespace Operation

def perform (c : Catalog) : Operation → Catalog × Nat
  | .insert candidate => c.insert candidate
  | .insertKey key place => c.insertKey key place

theorem perform_fst (c : Catalog) (op : Operation) : (op.perform c).1 = op.apply c := by
  cases op <;> rfl

/-- There are two ways to record one place that uses a bare key: by the key, and by an entry. -/
inductive Interchangeable : Operation → Operation → Prop
  | same (op : Operation) : Interchangeable op op
  | byEntry (key place : String) :
    Interchangeable (insertKey key place)
      (insert { kind := .normal, msgid := key, references := [place] })
  | byKey (key place : String) :
    Interchangeable (insert { kind := .normal, msgid := key, references := [place] })
      (insertKey key place)

theorem Interchangeable.candidate_eq {op op' : Operation} (h : Interchangeable op op') :
    op.candidate = op'.candidate := by
  cases h <;> rfl

end Operation

namespace Catalog

theorem insert_located (c : Catalog) (e : Entry) :
    ((c.store e).entries.map Entry.key)[(c.insert e).2]? = some e.key := by
  have hp : c.entries.map Entry.key <+: (c.store e).entries.map Entry.key := by
    rw [store_entries]
    exact prefix_keys_merge c.entries e
  unfold store insert at hp ⊢
  cases hf : c.find? e with
  | none => simp
  | some i =>
    simp only [hf] at hp
    exact getElem?_of_prefix hp (getElem?_of_findIdx? hf)

end Catalog

namespace Operation

theorem perform_located {c : Catalog} (hc : c.Coherent) (op : Operation) :
    ((op.apply c).entries.map Entry.key)[(op.perform c).2]? = some op.candidate.key := by
  cases op with
  | insert e => exact c.insert_located e
  | insertKey key place =>
    obtain ⟨-, hm, -⟩ := Catalog.locate_spec hc key
    exact (hc.insertKey key place).located key _ hm

theorem perform_returned {c : Catalog} (hc : c.Coherent) (op : Operation) :
    ∃ e, (op.apply c).entries[(op.perform c).2]? = some e ∧
      Catalog.entryOf (op.apply c).entries op.candidate.key = some e := by
  have hl := perform_located hc op
  rw [List.getElem?_map, Option.map_eq_some_iff] at hl
  obtain ⟨e, he, hk⟩ := hl
  refine ⟨e, he, ?_⟩
  rw [← hk]
  exact Catalog.entryOf_of_mem (op.coherent_apply hc).nodup (List.mem_of_getElem? he)

end Operation

namespace Catalog

structure Sight where
  entries : List Entry
  returned : Option Entry

def sights (c : Catalog) : List Operation → List Sight
  | [] => []
  | op :: ops =>
    let (c', i) := op.perform c
    { entries := c'.entries, returned := c'.entries[i]? } :: c'.sights ops

theorem sights_cons (c : Catalog) (op : Operation) (ops : List Operation) :
    c.sights (op :: ops) =
      { entries := (op.apply c).entries
        returned := (op.apply c).entries[(op.perform c).2]? } :: (op.apply c).sights ops := by
  rw [← op.perform_fst]
  rfl

theorem isSome_returned {c : Catalog} (hc : c.Coherent) (ops : List Operation) :
    ∀ s ∈ c.sights ops, s.returned.isSome := by
  induction ops generalizing c with
  | nil => simp [sights]
  | cons op ops ih =>
    obtain ⟨e, he, -⟩ := op.perform_returned hc
    rw [sights_cons, List.forall_mem_cons]
    exact ⟨by simp [he], ih (op.coherent_apply hc)⟩

/-- Two coherent catalogs with the same entries cannot be told apart, whatever positions they
remember. -/
theorem sights_eq {c d : Catalog} (hc : c.Coherent) (hd : d.Coherent)
    (hcd : c.entries = d.entries) {ops ops' : List Operation}
    (h : List.Forall₂ Operation.Interchangeable ops ops') : c.sights ops = d.sights ops' := by
  -- the entries stay the same throughout; the remembered positions need not
  induction h generalizing c d with
  | nil => rfl
  | @cons op op' ops ops' hop _ ih =>
    have he : (op.apply c).entries = (op'.apply d).entries := by
      rw [op.apply_entries hc, op'.apply_entries hd, hcd, hop.candidate_eq]
    obtain ⟨x, hx, hkx⟩ := op.perform_returned hc
    obtain ⟨y, hy, hky⟩ := op'.perform_returned hd
    have hxy : some x = some y := by
      rw [← hkx, ← hky, he, hop.candidate_eq]
    rw [sights_cons, sights_cons, ih (op.coherent_apply hc) (op'.coherent_apply hd) he, hx, hy, hxy,
      he]

/-- The memory for bare keys cannot be noticed: wherever a history records the use of a bare key,
this may be done by the key or by an entry. The entries after every operation are the same, and so
is the entry that every operation gives back. -/
theorem key_memory_unnoticeable (seeds : List String) (ops ops' : List Operation)
    (h : List.Forall₂ Operation.Interchangeable ops ops') :
    (ofSeeds seeds).sights ops = (ofSeeds seeds).sights ops' ∧
      ∀ s ∈ (ofSeeds seeds).sights ops, s.returned.isSome := by
  have hc := coherent_ofSeeds seeds
  exact ⟨sights_eq hc hc rfl h, isSome_returned hc ops⟩

theorem key_memory_unnoticeable_mixed :
    let byEntry place := Operation.insert { kind := .normal, msgid := "k", references := [place] }
    let byKey place := Operation.insertKey "k" place
    let mixed := [byEntry "f:1", byKey "f:2", byEntry "f:3"]
    let swapped := [byKey "f:1", byEntry "f:2", byKey "f:3"]
    List.Forall₂ Operation.Interchangeable mixed swapped ∧
      (ofSeeds ["s"]).sights mixed = (ofSeeds ["s"]).sights swapped ∧
      ∀ s ∈ (ofSeeds ["s"]).sights mixed, s.returned.isSome := by
  intro byEntry byKey mixed swapped
  have h : List.Forall₂ Operation.Interchangeable mixed swapped :=
    .cons (.byKey _ _) (.cons (.byEntry _ _) (.cons (.byKey _ _) .nil))
  exact ⟨h, key_memory_unnoticeable ["s"] mixed swapped h⟩

end Catalog

end Phrasebook
