import Phrasebook.Proofs.CallOrder
import Phrasebook.Proofs.Escaping
import Phrasebook.Proofs.Growth

namespace Phrasebook

open Text

theorem Marker.kind_of_read {marker : Marker} {args : List Node} {m : Message}
    (h : marker.read args = some m) :
    (m.kind = .context ↔ m.msgctxt ≠ none) ∧ (m.kind = .plural ↔ m.msgidPlural ≠ none) := by
  cases marker with
  | simple =>
    simp only [read, Option.bind_eq_bind, Option.bind_eq_some_iff, Option.pure_def,
      Option.some.injEq] at h
    obtain ⟨msgid, -, rfl⟩ := h
    simp
  | context | plural =>
    simp only [read, Option.bind_eq_bind, Option.bind_eq_some_iff, Option.pure_def,
      Option.some.injEq] at h
    obtain ⟨first, -, second, -, rfl⟩ := h
    simp

theorem Node.kind_of_message? {func : Node} {args : List Node} {m : Message}
    (h : func.message? args = some m) :
    (m.kind = .context ↔ m.msgctxt ≠ none) ∧ (m.kind = .plural ↔ m.msgidPlural ≠ none) := by
  simp only [message?, Option.bind_eq_bind, Option.bind_eq_some_iff] at h
  obtain ⟨name, -, marker, -, hm⟩ := h
  exact Marker.kind_of_read hm

namespace Entry

/-- A comment that is worth showing. Line ends stand between the comments that it is made of. -/
def IsComment (text : String) : Prop :=
  text ≠ "" ∧ '\t' ∉ text.toList ∧ '\x00' ∉ text.toList

theorem isComment_mergeComments {old added : Option String}
    (hold : ∀ text, old = some text → IsComment text)
    (hadded : ∀ text, added = some text → IsComment text) :
    ∀ text, mergeComments old added = some text → IsComment text := by
  intro text h
  obtain ⟨hm, -⟩ | ⟨hm, -⟩ | ⟨s, t, hs, ht, hm⟩ := mergeComments_cases old added
  · exact hold text (hm.symm.trans h)
  · exact hadded text (hm.symm.trans h)
  · obtain rfl : s ++ "\n" ++ t = text := by simpa [hm] using h
    obtain ⟨hne, hstab, hsnul⟩ := hold s hs
    obtain ⟨-, httab, htnul⟩ := hadded t ht
    exact ⟨by simp [hne], by simp [hstab, httab], by simp [hsnul, htnul]⟩

theorem isComment_ofMessage {m : Message} {place text : String}
    (h : (ofMessage m place).comment = some text) : IsComment text := by
  obtain ⟨hne, t, rfl⟩ := comment_ofMessage h
  have ht := isEscaped_escape t
  exact ⟨hne, ht _ (by simp), ht _ (by simp)⟩

/-- What every entry looks like after visits to the trees. The last field is about messages that are
not seeds: they are used somewhere, and their texts are escaped. -/
structure WellFormed (filename : String) (seeds : List String) (trees : List Node) (e : Entry) :
    Prop where
  context_iff : e.kind = .context ↔ e.msgctxt ≠ none
  plural_iff : e.kind = .plural ↔ e.msgidPlural ≠ none
  comment : ∀ text, e.comment = some text → IsComment text
  references : ∀ place ∈ e.references, ∃ tree ∈ trees, ∃ address line func args keywords,
    tree.at? address = some (.call (some line) func args keywords) ∧
      place = filename ++ ":" ++ toString line
  extracted : (∀ seed ∈ seeds, e.key ≠ (.normal, seed, none)) →
    e.references ≠ [] ∧
      ∀ text, e.msgid = text ∨ e.msgidPlural = some text ∨ e.msgctxt = some text → IsEscaped text

variable {filename : String} {seeds : List String} {trees : List Node}

theorem wellFormed_plain {seed : String} (h : seed ∈ seeds) :
    WellFormed filename seeds trees (plain seed) where
  context_iff := by simp [plain]
  plural_iff := by simp [plain]
  comment := by simp [plain]
  references := by simp [plain]
  extracted := fun hseeds => absurd rfl (hseeds seed h)

theorem WellFormed.absorb {e other : Entry} (he : WellFormed filename seeds trees e)
    (ho : WellFormed filename seeds trees other) :
    WellFormed filename seeds trees (e.absorb other) where
  context_iff := he.context_iff
  plural_iff := he.plural_iff
  comment := isComment_mergeComments he.comment ho.comment
  references := List.forall_mem_append.mpr ⟨he.references, ho.references⟩
  extracted := by
    intro hseeds
    obtain ⟨hrefs, htexts⟩ := he.extracted hseeds
    exact ⟨List.append_ne_nil_of_left_ne_nil hrefs _, htexts⟩

theorem wellFormed_candidate {tree : Node} (htree : tree ∈ trees) {e : Entry}
    (he : e ∈ tree.candidates filename) : WellFormed filename seeds trees e := by
  obtain ⟨address, line, func, args, keywords, hcall, he⟩ := Node.mem_candidates.mp he
  obtain ⟨l, m, rfl, hm, rfl⟩ := Collector.candidate?_eq_some_iff.mp he
  obtain ⟨hcontext, hplural⟩ := Node.kind_of_message? hm
  constructor
  · simpa [ofMessage] using hcontext
  · simpa [ofMessage] using hplural
  · exact fun text => isComment_ofMessage
  · intro place hplace
    exact ⟨tree, htree, address, l, func, args, keywords, hcall, List.mem_singleton.mp hplace⟩
  · intro _
    refine ⟨List.cons_ne_nil _ _, fun text htext => ?_⟩
    obtain rfl | htext | htext := htext
    · exact isEscaped_escape m.msgid
    · obtain ⟨t, -, rfl⟩ := Option.map_eq_some_iff.mp htext
      exact isEscaped_escape t
    · obtain ⟨t, -, rfl⟩ := Option.map_eq_some_iff.mp htext
      exact isEscaped_escape t

end Entry

namespace Collector

variable {filename : String} {seeds : List String} {trees : List Node}

theorem wellFormed_afterVisit {c : Collector} (hd : c.depth = 0) {tree : Node} (ht : tree ∈ trees)
    (hc : ∀ e ∈ c.catalog.entries, e.WellFormed c.filename seeds trees) :
    ∀ e ∈ (c.afterVisit tree).catalog.entries, e.WellFormed c.filename seeds trees := by
  obtain ⟨events, hevents, hs⟩ := afterVisit_eq_storing c tree
  rw [hd] at hevents
  have hentries : (c.afterVisit tree).catalog.entries =
      (events.filterMap (·.candidate? c.filename)).foldl Catalog.merge c.catalog.entries := by
    rw [hs]
    exact Catalog.foldl_store_entries c.catalog _
  rw [hentries]
  refine Catalog.forall_mem_foldl_merge (fun x e => Entry.WellFormed.absorb) hc fun e he => ?_
  apply Entry.wellFormed_candidate ht
  exact (hevents.filterMap _).subset he

theorem wellFormed_visits {c : Collector} (hd : c.depth = 0)
    (hc : ∀ e ∈ c.catalog.entries, e.WellFormed c.filename seeds trees) {visited : List Node}
    (hv : visited ⊆ trees) :
    ∀ e ∈ ((visited.map Step.visit).foldl step c).catalog.entries,
      e.WellFormed c.filename seeds trees := by
  induction visited generalizing c with
  | nil => exact hc
  | cons tree visited ih =>
    rw [List.cons_subset] at hv
    have hnext := wellFormed_afterVisit hd hv.1 hc
    obtain ⟨events, -, hs⟩ := afterVisit_eq_storing c tree
    have hfile : (c.afterVisit tree).filename = c.filename := by rw [hs]; rfl
    have hdepth : (c.afterVisit tree).depth = 0 := by rw [hs]; exact hd
    rw [← hfile] at hnext ⊢
    exact ih hdepth hnext hv.2

/-- After any visits, whether they succeeded or were stopped, all entries are well-formed. -/
theorem visits_leave_wellFormed (filename : String) (seeds : List String) (maxDepth : Option Int)
    (trees : List Node) :
    ∀ e ∈ (session filename seeds maxDepth (trees.map .visit)).catalog.entries,
      e.WellFormed filename seeds trees := by
  have hstart : ∀ e ∈ (start filename seeds maxDepth).catalog.entries,
      e.WellFormed filename seeds trees := by
    have hseeds : (start filename seeds maxDepth).catalog.entries =
        seeds.eraseDups.map Entry.plain := Catalog.ofSeeds_entries seeds
    rw [hseeds, List.forall_mem_map]
    intro seed hs
    exact Entry.wellFormed_plain (List.mem_eraseDups.mp hs)
  exact wellFormed_visits rfl hstart (List.Subset.refl trees)

theorem visits_leave_wellFormed_plural :
    let text (s : String) : Node := .constant (some 3) (.text s)
    let tree : Node := .call (some 3) (.name (some 3) "n_")
      [text "one\nfile", text "files", .name (some 3) "n", text "a\tcomment",
        .sequence (some 4) [text "too deep"]] []
    let e : Entry := {
      kind := .plural, msgid := "one\\nfile", msgidPlural := some "files", references := ["f:3"]
      comment := some "a\\tcomment" }
    e ∈ (session "f" ["seed"] (some 2) [.visit tree]).catalog.entries ∧
      fault? (visit tree (start "f" ["seed"] (some 2))) = some (.tooDeep "f" 3 2) ∧
      e.WellFormed "f" ["seed"] [tree] := by
  intro text tree e
  have he : e ∈ (session "f" ["seed"] (some 2) [.visit tree]).catalog.entries := by
    decide +kernel
  exact ⟨he, by decide +kernel, visits_leave_wellFormed "f" ["seed"] (some 2) [tree] e he⟩

end Collector

end Phrasebook
