import Phrasebook.Proofs.Decoding
import Phrasebook.Proofs.Interchange
import Phrasebook.Proofs.SeedCalls

namespace Phrasebook

namespace Catalog

/-- An entry is inserted, other operations follow, and then the second entry goes to the position
of the first one. -/
def Joins (c : Catalog) (e : Entry) (between : List Operation) (e' : Entry) : Prop :=
  ((between.foldl Operation.apply (c.store e)).insert e').2 = (c.insert e).2

theorem prefix_messages_foldl_apply {c : Catalog} (hc : c.Coherent) (ops : List Operation) :
    c.entries.map Entry.key <+: (ops.foldl Operation.apply c).entries.map Entry.key := by
  rw [foldl_apply_entries hc]
  exact prefix_keys_foldl_merge _ _

theorem joins_iff {c : Catalog} (hc : c.Coherent) (e : Entry) (between : List Operation)
    (e' : Entry) : c.Joins e between e' ↔ e.key = e'.key := by
  let d := between.foldl Operation.apply (c.store e)
  have hd : d.Coherent := coherent_foldl_apply (hc.store e) between
  have hprefix : (c.store e).entries.map Entry.key <+: (d.store e').entries.map Entry.key := by
    rw [store_entries d]
    exact (prefix_messages_foldl_apply (hc.store e) between).trans (prefix_keys_merge _ _)
  -- both positions, looked up when everything is done
  have hfirst : ((d.store e').entries.map Entry.key)[(c.insert e).2]? = some e.key :=
    getElem?_of_prefix hprefix (c.insert_located e)
  have hsecond : ((d.store e').entries.map Entry.key)[(d.insert e').2]? = some e'.key :=
    d.insert_located e'
  constructor
  · intro h
    have hposition : (d.insert e').2 = (c.insert e).2 := h
    rw [hposition, hfirst] at hsecond
    exact Option.some.inj hsecond
  · intro h
    have hlt := (List.getElem?_eq_some_iff.mp hsecond).1
    apply (List.getElem?_inj hlt (hd.store e').nodup).mp
    rw [hfirst, hsecond, h]

end Catalog

open Text

/-- Two texts have the same escaped form exactly when they have the same decoding, and decoding
undoes escaping where a text has no code of its own. So the catalog keeps two calls of simple
markers together, whatever is recorded before and between them, exactly when their texts have the
same decoding. -/
theorem escape_conflates_equal_decodings :
    (∀ s, decode (escape s) = decode s) ∧
    (∀ s, escape (decode s) = escape s) ∧
    (∀ s t, escape s = escape t ↔ decode s = decode t) ∧
    (∀ s, HasNoCode s → decode (escape s) = s) ∧
    (∀ s t, HasNoCode s → HasNoCode t → escape s = escape t → s = t) ∧
    ∀ (filename filename' : String) (tree tree' : Node) (address address' : Address)
      (line line' : Int) (s t : String),
      tree.SimpleCall address line s → tree'.SimpleCall address' line' t →
      ∃ e e', (tree.at? address >>= Node.candidate? filename) = some e ∧
        (tree'.at? address' >>= Node.candidate? filename') = some e' ∧
        ∀ (seeds : List String) (before between : List Operation),
          (Catalog.ofHistory seeds before).Joins e between e' ↔ decode s = decode t := by
  refine ⟨decode_escape, escape_decode, fun s t => escape_eq_escape_iff,
    fun s => decode_escape_eq_self, fun s t hs ht h => ?_, ?_⟩
  · rw [← decode_escape_eq_self hs, h, decode_escape_eq_self ht]
  · intro filename filename' tree tree' address address' line line' s t hcall hcall'
    obtain ⟨comment, he⟩ := hcall.candidate filename
    obtain ⟨comment', he'⟩ := hcall'.candidate filename'
    refine ⟨_, _, he, he', fun seeds before between => ?_⟩
    rw [Catalog.joins_iff (Catalog.coherent_ofHistory seeds before), ← escape_eq_escape_iff]
    simp [Entry.key, Entry.ofMessage]

theorem escape_conflates_equal_decodings_newline :
    let call (text : String) : Node :=
      .call (some 1) (.name (some 1) "_") [.constant (some 1) (.text text)] []
    HasNoCode "a\nb" ∧ decode (escape "a\nb") = "a\nb" ∧
    ¬ HasNoCode "a\\nb" ∧ decode (escape "a\\nb") = "a\nb" ∧
    (call "a\nb").SimpleCall [] 1 "a\nb" ∧ (call "a\\nb").SimpleCall [] 1 "a\\nb" ∧
    ∃ e e', (call "a\nb").candidate? "f" = some e ∧ (call "a\\nb").candidate? "g" = some e' ∧
      (Catalog.ofSeeds []).Joins e [] e' := by
  intro call
  have hraw : (call "a\nb").SimpleCall [] 1 "a\nb" := ⟨_, "_", _, _, _, rfl, rfl, by decide, rfl⟩
  have hcode : (call "a\\nb").SimpleCall [] 1 "a\\nb" :=
    ⟨_, "_", _, _, _, rfl, rfl, by decide, rfl⟩
  have hnone : HasNoCode "a\nb" := by decide +kernel
  obtain ⟨-, -, -, hinverse, -, hmerged⟩ := escape_conflates_equal_decodings
  obtain ⟨e, e', he, he', hjoins⟩ := hmerged "f" "g" _ _ [] [] 1 1 _ _ hraw hcode
  exact ⟨hnone, hinverse _ hnone, by decide +kernel, by decide +kernel, hraw, hcode, e, e', he, he',
    (hjoins [] [] []).mpr (by decide +kernel)⟩

end Phrasebook
