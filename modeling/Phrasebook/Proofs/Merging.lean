import Phrasebook.Catalog.Basic
import Phrasebook.Proofs.FirstSeen

namespace Phrasebook

abbrev MessageKey := Kind × String × Option String

namespace Entry

def plainKey (msgid : String) : MessageKey := (.normal, msgid, none)

@[simp] theorem plain_key (msgid : String) : (plain msgid).key = plainKey msgid := rfl

@[simp] theorem absorb_key (e other : Entry) : (e.absorb other).key = e.key := rfl

@[simp] theorem absorb_msgidPlural (e other : Entry) :
    (e.absorb other).msgidPlural = e.msgidPlural := rfl

@[simp] theorem absorb_references (e other : Entry) :
    (e.absorb other).references = e.references ++ other.references := rfl

theorem sameMessage_iff {a b : Entry} : a.sameMessage b = true ↔ a.key = b.key := by
  simp [sameMessage]

/-- Entries of one message run together, onto what there may already be. -/
def gather (start : Option Entry) (es : List Entry) : Option Entry :=
  es.foldl (fun found e => some (found.elim e (·.absorb e))) start

theorem gather_cons (start : Option Entry) (e : Entry) (es : List Entry) :
    gather start (e :: es) = gather (some (start.elim e (·.absorb e))) es := rfl

theorem references_gather {start : Option Entry} {es : List Entry} {x : Entry}
    (h : gather start es = some x) :
    x.references = start.elim [] Entry.references ++ es.flatMap Entry.references := by
  induction es generalizing start with
  | nil =>
    have hs : start = some x := h
    simp [hs]
  | cons e es ih =>
    rw [gather_cons] at h
    rw [ih h]
    cases start <;> simp

theorem msgidPlural_gather {start : Option Entry} {es : List Entry} {x : Entry}
    (h : gather start es = some x) :
    x.msgidPlural = (start.or es.head?).bind Entry.msgidPlural := by
  induction es generalizing start with
  | nil =>
    have hs : start = some x := h
    simp [hs]
  | cons e es ih =>
    rw [gather_cons] at h
    rw [ih h]
    cases start <;> simp

end Entry

namespace Catalog

def merge : List Entry → Entry → List Entry
  | [], e => [e]
  | x :: xs, e => if x.key = e.key then x.absorb e :: xs else x :: merge xs e

theorem findIdx?_eq_none {es : List Entry} {e : Entry} :
    es.findIdx? (·.sameMessage e) = none ↔ e.key ∉ es.map Entry.key := by
  rw [List.findIdx?_eq_none_iff, List.mem_map, not_exists]
  refine forall_congr' fun x => ?_
  rw [not_and, ← Bool.not_eq_true, Entry.sameMessage_iff]

theorem getElem?_of_findIdx? {es : List Entry} {e : Entry} {i : Nat}
    (h : es.findIdx? (·.sameMessage e) = some i) : (es.map Entry.key)[i]? = some e.key := by
  obtain ⟨hi, hs, -⟩ := List.findIdx?_eq_some_iff_getElem.mp h
  rw [List.getElem?_map, List.getElem?_eq_getElem hi, Option.map_some, Entry.sameMessage_iff.mp hs]

theorem findIdx?_of_getElem? {es : List Entry} (hn : (es.map Entry.key).Nodup) {e : Entry} {i : Nat}
    (h : (es.map Entry.key)[i]? = some e.key) : es.findIdx? (·.sameMessage e) = some i := by
  obtain ⟨hi, hk⟩ := List.getElem?_eq_some_iff.mp h
  have hi' : i < es.length := by simpa using hi
  rw [List.findIdx?_eq_some_iff_getElem]
  refine ⟨hi', Entry.sameMessage_iff.mpr (by simpa using hk), fun j hj hs => ?_⟩
  have hjk : (es.map Entry.key)[j]? = some e.key := by
    rw [List.getElem?_map, List.getElem?_eq_getElem (Nat.lt_trans hj hi'), Option.map_some,
      Entry.sameMessage_iff.mp hs]
  have hij : i = j := (List.getElem?_inj hi hn).mp (h.trans hjk.symm)
  omega

theorem merge_append {es : List Entry} {e : Entry} (h : e.key ∉ es.map Entry.key)
    (fs : List Entry) : merge (es ++ fs) e = es ++ merge fs e := by
  induction es with
  | nil => rfl
  | cons x xs ih =>
    rw [List.map_cons, List.mem_cons, not_or] at h
    simp [merge, Ne.symm h.1, ih h.2]

theorem merge_eq_append {es : List Entry} {e : Entry} (h : e.key ∉ es.map Entry.key) :
    merge es e = es ++ [e] := by
  simpa [merge] using merge_append h []

theorem merge_eq_modify {es : List Entry} {e : Entry} {i : Nat}
    (h : es.findIdx? (·.sameMessage e) = some i) : merge es e = es.modify i (·.absorb e) := by
  induction es generalizing i with
  | nil => simp at h
  | cons x xs ih =>
    rw [List.findIdx?_cons] at h
    by_cases hx : x.key = e.key
    · have hs : x.sameMessage e = true := Entry.sameMessage_iff.mpr hx
      simp only [hs, ↓reduceIte, Option.some.injEq] at h
      subst h
      simp [merge, hx]
    · have hs : x.sameMessage e = false := by simpa [Entry.sameMessage] using hx
      simp only [hs, Bool.false_eq_true, ↓reduceIte, Option.map_eq_some_iff] at h
      obtain ⟨j, hj, rfl⟩ := h
      simp [merge, hx, ih hj]

theorem store_entries (c : Catalog) (e : Entry) : (c.store e).entries = merge c.entries e := by
  unfold store insert find?
  cases h : c.entries.findIdx? (·.sameMessage e) with
  | none => exact (merge_eq_append (findIdx?_eq_none.mp h)).symm
  | some i => exact (merge_eq_modify h).symm

theorem store_keys (c : Catalog) (e : Entry) : (c.store e).keys = c.keys := by
  unfold store insert
  cases c.find? e <;> rfl

theorem foldl_store_entries (c : Catalog) (es : List Entry) :
    (es.foldl store c).entries = es.foldl merge c.entries := by
  induction es generalizing c with
  | nil => rfl
  | cons e es ih => rw [List.foldl_cons, ih, store_entries, List.foldl_cons]

theorem keys_merge (es : List Entry) (e : Entry) :
    (merge es e).map Entry.key = appendNew (es.map Entry.key) e.key := by
  induction es with
  | nil => rfl
  | cons x xs ih =>
    unfold appendNew at ih ⊢
    by_cases hx : x.key = e.key
    · simp [merge, hx]
    · have hx' : e.key ≠ x.key := Ne.symm hx
      simp only [merge, hx, ↓reduceIte, List.map_cons, ih, List.mem_cons, hx', false_or]
      split <;> rfl

theorem nodup_keys_merge {es : List Entry} (h : (es.map Entry.key).Nodup) (e : Entry) :
    ((merge es e).map Entry.key).Nodup := by
  rw [keys_merge]
  exact nodup_appendNew h e.key

theorem prefix_keys_merge (es : List Entry) (e : Entry) :
    es.map Entry.key <+: (merge es e).map Entry.key := by
  rw [keys_merge]
  exact prefix_appendNew _ _

def entryOf (es : List Entry) (key : MessageKey) : Option Entry :=
  es.find? fun e => e.key = key

theorem entryOf_of_mem {es : List Entry} (h : (es.map Entry.key).Nodup) {e : Entry} (he : e ∈ es) :
    entryOf es e.key = some e := by
  induction es with
  | nil => simp at he
  | cons x xs ih =>
    rw [List.map_cons, List.nodup_cons] at h
    obtain rfl | hm := List.mem_cons.mp he
    · simp [entryOf]
    · have hx : x.key ≠ e.key := fun hk => h.1 (hk ▸ List.mem_map_of_mem hm)
      simpa [entryOf, hx] using ih h.2 hm

theorem getElem?_eq_entryOf {es : List Entry} (hn : (es.map Entry.key).Nodup) (i : Nat) :
    es[i]? = (es.map Entry.key)[i]?.bind (entryOf es) := by
  rw [List.getElem?_map]
  cases h : es[i]? with
  | none => rfl
  | some e => exact (entryOf_of_mem hn (List.mem_of_getElem? h)).symm

theorem entryOf_merge (es : List Entry) (e : Entry) (key : MessageKey) :
    entryOf (merge es e) key =
      if e.key = key then some ((entryOf es key).elim e (·.absorb e)) else entryOf es key := by
  induction es with
  | nil => by_cases hk : e.key = key <;> simp [merge, entryOf, hk]
  | cons x xs ih =>
    unfold entryOf at ih ⊢
    by_cases hx : x.key = e.key
    · by_cases hk : e.key = key <;> simp [merge, hx, hk]
    · by_cases hxk : x.key = key
      · subst hxk
        simp [merge, hx, Ne.symm hx]
      · simpa [merge, hx, hxk] using ih

theorem length_references_merge (es : List Entry) (e : Entry) :
    ((merge es e).flatMap Entry.references).length =
      (es.flatMap Entry.references).length + e.references.length := by
  induction es with
  | nil => simp [merge]
  | cons x xs ih =>
    by_cases hx : x.key = e.key
    · simp only [merge, hx, ↓reduceIte, List.flatMap_cons, Entry.absorb_references,
        List.length_append]
      omega
    · simp only [merge, hx, ↓reduceIte, List.flatMap_cons, List.length_append, ih]
      omega

theorem forall_mem_merge {P : Entry → Prop} (habsorb : ∀ x e, P x → P e → P (x.absorb e))
    {es : List Entry} (hes : ∀ x ∈ es, P x) {e : Entry} (he : P e) : ∀ x ∈ merge es e, P x := by
  induction es with
  | nil => simpa [merge] using he
  | cons x xs ih =>
    rw [List.forall_mem_cons] at hes
    rw [merge]
    split
    · exact List.forall_mem_cons.mpr ⟨habsorb x e hes.1 he, hes.2⟩
    · exact List.forall_mem_cons.mpr ⟨hes.1, ih hes.2⟩

section Fold

variable (es cs : List Entry)

/-- New messages come in the order in which they are first seen. -/
theorem keys_foldl_merge :
    (cs.foldl merge es).map Entry.key =
      es.map Entry.key ++ ((cs.map Entry.key).filter (· ∉ es.map Entry.key)).eraseDups := by
  rw [← foldl_appendNew]
  induction cs generalizing es with
  | nil => rfl
  | cons c cs ih => rw [List.foldl_cons, ih, keys_merge, List.map_cons, List.foldl_cons]

theorem mem_keys_foldl_merge {es cs : List Entry} {key : MessageKey} :
    key ∈ (cs.foldl merge es).map Entry.key ↔ key ∈ es.map Entry.key ∨ ∃ c ∈ cs, c.key = key := by
  rw [keys_foldl_merge, List.mem_append, List.mem_eraseDups, List.mem_filter]
  generalize es.map Entry.key = seen
  by_cases hk : key ∈ seen <;> simp [hk]

theorem prefix_keys_foldl_merge : es.map Entry.key <+: (cs.foldl merge es).map Entry.key := by
  rw [keys_foldl_merge]
  exact List.prefix_append _ _

theorem nodup_keys_foldl_merge {es : List Entry} (h : (es.map Entry.key).Nodup) (cs : List Entry) :
    ((cs.foldl merge es).map Entry.key).Nodup := by
  induction cs generalizing es with
  | nil => exact h
  | cons c cs ih => exact ih (nodup_keys_merge h c)

theorem forall_mem_foldl_merge {P : Entry → Prop} (habsorb : ∀ x e, P x → P e → P (x.absorb e))
    {es cs : List Entry} (hes : ∀ x ∈ es, P x) (hcs : ∀ c ∈ cs, P c) :
    ∀ x ∈ cs.foldl merge es, P x := by
  induction cs generalizing es with
  | nil => exact hes
  | cons c cs ih =>
    rw [List.forall_mem_cons] at hcs
    exact ih (forall_mem_merge habsorb hes hcs.1) hcs.2

/-- The entry for a message is made of the candidates for this message alone, in their order. -/
theorem entryOf_foldl_merge (key : MessageKey) :
    entryOf (cs.foldl merge es) key =
      Entry.gather (entryOf es key) (cs.filter fun c => c.key = key) := by
  induction cs generalizing es with
  | nil => rfl
  | cons c cs ih =>
    rw [List.foldl_cons, ih, entryOf_merge]
    by_cases hc : c.key = key
    · simp [hc, Entry.gather_cons]
    · simp [hc]

def placesFor (cs : List Entry) (key : MessageKey) : List String :=
  (cs.filter (·.key = key)).flatMap Entry.references

theorem mem_placesFor {cs : List Entry} {key : MessageKey} {place : String} :
    place ∈ placesFor cs key ↔ ∃ c ∈ cs, c.key = key ∧ place ∈ c.references := by
  simp [placesFor, List.mem_flatMap, and_assoc]

theorem references_foldl_merge {es cs : List Entry} (hn : (es.map Entry.key).Nodup) {e : Entry}
    (he : e ∈ cs.foldl merge es) :
    e.references = (entryOf es e.key).elim [] Entry.references ++ placesFor cs e.key := by
  have hf := entryOf_of_mem (nodup_keys_foldl_merge hn cs) he
  rw [entryOf_foldl_merge] at hf
  exact Entry.references_gather hf

theorem length_references_foldl_merge :
    ((cs.foldl merge es).flatMap Entry.references).length =
      (es.flatMap Entry.references).length + (cs.flatMap Entry.references).length := by
  induction cs generalizing es with
  | nil => simp
  | cons c cs ih =>
    rw [List.foldl_cons, ih, length_references_merge, List.flatMap_cons, List.length_append]
    omega

end Fold

end Catalog

end Phrasebook
