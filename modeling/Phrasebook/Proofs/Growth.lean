import Phrasebook.Proofs.Recording
import Phrasebook.Proofs.TextLines

namespace Phrasebook

namespace Entry

/-- What can become of an entry: its texts stay, and its references and its comment only get
longer at the end. No comment counts as an empty one. -/
structure Grows (old new : Entry) : Prop where
  kind : new.kind = old.kind
  msgid : new.msgid = old.msgid
  msgidPlural : new.msgidPlural = old.msgidPlural
  msgctxt : new.msgctxt = old.msgctxt
  references : old.references <+: new.references
  comment : (old.comment.getD "").toList <+: (new.comment.getD "").toList

theorem Grows.refl (e : Entry) : e.Grows e :=
  ⟨rfl, rfl, rfl, rfl, List.prefix_rfl, List.prefix_rfl⟩

theorem Grows.trans {a b c : Entry} (h : a.Grows b) (h' : b.Grows c) : a.Grows c where
  kind := h'.kind.trans h.kind
  msgid := h'.msgid.trans h.msgid
  msgidPlural := h'.msgidPlural.trans h.msgidPlural
  msgctxt := h'.msgctxt.trans h.msgctxt
  references := h.references.trans h'.references
  comment := h.comment.trans h'.comment

theorem Grows.key {old new : Entry} (h : old.Grows new) : new.key = old.key := by
  simp only [Entry.key, h.kind, h.msgid, h.msgctxt]

def Carries (e : Entry) (text : String) : Prop :=
  text.toList <:+: (e.comment.getD "").toList

theorem Grows.carries {old new : Entry} (h : old.Grows new) {text : String}
    (ht : old.Carries text) : new.Carries text :=
  List.IsInfix.trans ht h.comment.isInfix

theorem mergeComments_cases (old added : Option String) :
    (mergeComments old added = old ∧ (added.getD "").toList <:+: (old.getD "").toList) ∨
    (mergeComments old added = added ∧ old.getD "" = "") ∨
    ∃ s t, old = some s ∧ added = some t ∧
      mergeComments old added = some (s ++ "\n" ++ t) := by
  unfold mergeComments joinComments
  split
  · rename_i h
    exact .inl ⟨rfl, Text.contains_iff.mp h.2.2⟩
  · split
    · rename_i hadded
      exact .inl ⟨rfl, by simp [hadded]⟩
    · split
      · rename_i hold
        exact .inr (.inl ⟨rfl, hold⟩)
      · rename_i hadded hold
        cases old with
        | none => exact absurd rfl hold
        | some s =>
          cases added with
          | none => exact absurd rfl hadded
          | some t => exact .inr (.inr ⟨s, t, rfl, rfl, rfl⟩)

theorem prefix_mergeComments (old added : Option String) :
    (old.getD "").toList <+: ((mergeComments old added).getD "").toList := by
  obtain ⟨h, -⟩ | ⟨-, hold⟩ | ⟨s, t, rfl, rfl, h⟩ := mergeComments_cases old added
  · rw [h]
  · rw [hold]
    exact List.nil_prefix
  · rw [h]
    simp [List.append_assoc]

theorem infix_mergeComments (old added : Option String) :
    (added.getD "").toList <:+: ((mergeComments old added).getD "").toList := by
  obtain ⟨h, hin⟩ | ⟨h, -⟩ | ⟨s, t, rfl, rfl, h⟩ := mergeComments_cases old added
  · rwa [h]
  · rw [h]
  · rw [h, Option.getD_some, Option.getD_some, String.toList_append]
    exact (List.suffix_append _ _).isInfix

theorem grows_absorb (e other : Entry) : e.Grows (e.absorb other) :=
  ⟨rfl, rfl, rfl, rfl, List.prefix_append _ _, prefix_mergeComments _ _⟩

theorem carries_absorb (e other : Entry) : (e.absorb other).Carries (other.comment.getD "") :=
  infix_mergeComments _ _

end Entry

namespace Catalog

def Extends (es fs : List Entry) : Prop :=
  ∀ (i : Nat) (old : Entry), es[i]? = some old → ∃ new, fs[i]? = some new ∧ old.Grows new

theorem Extends.refl (es : List Entry) : Extends es es :=
  fun _ old h => ⟨old, h, .refl old⟩

theorem Extends.trans {es fs gs : List Entry} (h : Extends es fs) (h' : Extends fs gs) :
    Extends es gs := by
  intro i old hi
  obtain ⟨mid, hm, hg⟩ := h i old hi
  obtain ⟨new, hn, hg'⟩ := h' i mid hm
  exact ⟨new, hn, hg.trans hg'⟩

theorem Extends.prefix_keys {es fs : List Entry} (h : Extends es fs) :
    es.map Entry.key <+: fs.map Entry.key := by
  rw [List.prefix_iff_getElem?]
  intro i hi
  have hi' : i < es.length := by simpa using hi
  obtain ⟨new, hn, hg⟩ := h i es[i] (List.getElem?_eq_getElem hi')
  simp [hn, hg.key]

theorem Extends.cons {x y : Entry} {es fs : List Entry} (hx : x.Grows y) (h : Extends es fs) :
    Extends (x :: es) (y :: fs) := by
  intro i old hi
  cases i with
  | zero =>
    cases hi
    exact ⟨y, rfl, hx⟩
  | succ i => exact h i old hi

/-- An entry for the message carries the comment, if there is one to carry. -/
def Settled (es : List Entry) (e : Entry) : Prop :=
  ∃ x ∈ es, x.key = e.key ∧ x.Carries (e.comment.getD "")

theorem Extends.settled {es fs : List Entry} (h : Extends es fs) {e : Entry} (he : Settled es e) :
    Settled fs e := by
  obtain ⟨x, hx, hk, hc⟩ := he
  obtain ⟨i, hi⟩ := List.mem_iff_getElem?.mp hx
  obtain ⟨y, hy, hg⟩ := h i x hi
  exact ⟨y, List.mem_of_getElem? hy, hg.key.trans hk, hg.carries hc⟩

theorem extends_merge (es : List Entry) (e : Entry) : Extends es (merge es e) := by
  induction es with
  | nil => exact fun i old h => by simp at h
  | cons x xs ih =>
    rw [merge]
    split
    · exact .cons (x.grows_absorb e) (.refl xs)
    · exact .cons (.refl x) ih

theorem settled_merge (es : List Entry) (e : Entry) : Settled (merge es e) e := by
  induction es with
  | nil => exact ⟨e, by simp [merge], rfl, List.infix_rfl⟩
  | cons x xs ih =>
    rw [merge]
    split
    · rename_i hx
      exact ⟨x.absorb e, List.mem_cons_self, hx, x.carries_absorb e⟩
    · obtain ⟨y, hy, h⟩ := ih
      exact ⟨y, List.mem_cons_of_mem x hy, h⟩

theorem extends_foldl_merge (es cs : List Entry) : Extends es (cs.foldl merge es) := by
  induction cs generalizing es with
  | nil => exact .refl es
  | cons c cs ih => exact (extends_merge es c).trans (ih _)

theorem settled_foldl_merge (es : List Entry) {cs : List Entry} :
    ∀ c ∈ cs, Settled (cs.foldl merge es) c := by
  induction cs generalizing es with
  | nil => simp
  | cons c cs ih =>
    rw [List.forall_mem_cons]
    exact ⟨(extends_foldl_merge _ cs).settled (settled_merge es c), ih _⟩

end Catalog

namespace Collector

/-- The entries that a step passes to the catalog, in their order. A bare key is no entry. -/
def stored (c : Collector) : Step → List Entry
  | .visit tree => c.passed tree
  | .change (.insert e) => [e]
  | .change (.insertKey ..) => []

theorem step_coherent {c : Collector} (hc : c.catalog.Coherent) (s : Step) :
    (c.step s).catalog.Coherent := by
  obtain ⟨ops, h⟩ := step_catalog c s
  rw [h]
  exact Catalog.coherent_foldl_apply hc ops

/-- A step merges what it passes to the catalog, and at most a bare key beside. -/
theorem step_entries {c : Collector} (hc : c.catalog.Coherent) (s : Step) :
    ∃ es, (c.step s).catalog.entries = es.foldl Catalog.merge c.catalog.entries ∧
      c.stored s ⊆ es := by
  cases s with
  | visit tree =>
    refine ⟨c.passed tree, ?_, List.Subset.refl _⟩
    have hv := afterVisit_withCatalog c tree c.catalog
    rw [withCatalog_self] at hv
    rw [step, hv]
    exact Catalog.foldl_store_entries c.catalog (c.passed tree)
  | change op =>
    refine ⟨[op.candidate], op.apply_entries hc, ?_⟩
    cases op with
    | insert e => exact List.Subset.refl _
    | insertKey key place => exact List.nil_subset _

theorem extends_steps {c : Collector} (hc : c.catalog.Coherent) (steps : List Step) :
    Catalog.Extends c.catalog.entries (steps.foldl step c).catalog.entries := by
  induction steps generalizing c with
  | nil => exact .refl _
  | cons s steps ih =>
    obtain ⟨es, hs, -⟩ := step_entries hc s
    have hfirst := Catalog.extends_foldl_merge c.catalog.entries es
    rw [← hs] at hfirst
    exact hfirst.trans (ih (step_coherent hc s))

theorem session_coherent (filename : String) (seeds : List String) (maxDepth : Option Int)
    (steps : List Step) : (session filename seeds maxDepth steps).catalog.Coherent := by
  obtain ⟨ops, h⟩ := session_catalog filename seeds maxDepth steps
  rw [h]
  exact Catalog.coherent_ofHistory seeds ops

/-- Nothing that a session has recorded is lost later on. Every entry keeps its place and grows, and
a comment that a step passes to the catalog stands in the comment of the entry for its message at
all times after that step. -/
theorem session_loses_nothing (filename : String) (seeds : List String) (maxDepth : Option Int)
    (earlier later : List Step) :
    let c := session filename seeds maxDepth earlier
    let entries := (later.foldl step c).catalog.entries
    c.catalog.entries.map Entry.key <+: entries.map Entry.key ∧
    (∀ (i : Nat) (old : Entry), c.catalog.entries[i]? = some old →
      ∃ new, entries[i]? = some new ∧ old.Grows new) ∧
    ∀ s, ∀ e ∈ c.stored s, ∀ text, e.comment = some text → text ≠ "" →
      ∃ x ∈ (later.foldl step (c.step s)).catalog.entries, x.key = e.key ∧
        ∃ whole, x.comment = some whole ∧ text.toList <:+: whole.toList := by
  intro c entries
  have hc : c.catalog.Coherent := session_coherent filename seeds maxDepth earlier
  have hext := extends_steps hc later
  refine ⟨hext.prefix_keys, hext, fun s e he text htext hne => ?_⟩
  obtain ⟨es, hs, hsub⟩ := step_entries hc s
  have hsettled := Catalog.settled_foldl_merge c.catalog.entries e (hsub he)
  rw [← hs] at hsettled
  obtain ⟨x, hx, hk, hin⟩ := (extends_steps (step_coherent hc s) later).settled hsettled
  refine ⟨x, hx, hk, ?_⟩
  rw [Entry.Carries, htext, Option.getD_some] at hin
  cases hw : x.comment with
  | none =>
    rw [hw] at hin
    exact absurd (String.toList_eq_nil_iff.mp (List.infix_nil.mp hin)) hne
  | some whole =>
    rw [hw] at hin
    exact ⟨whole, rfl, hin⟩

end Collector

end Phrasebook
