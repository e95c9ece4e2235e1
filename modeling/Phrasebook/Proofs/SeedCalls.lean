import Phrasebook.Proofs.CallOrder
import Phrasebook.Proofs.CatalogHistory
import Phrasebook.Proofs.Escaping

namespace Phrasebook

open Text

namespace Catalog

theorem nodup_seedKeys (seeds : List String) :
    ((seeds.eraseDups.map Entry.plain).map Entry.key).Nodup := by
  rw [← ofSeeds_entries]
  exact (coherent_ofSeeds seeds).nodup

theorem getElem?_seedKeys {seeds : List String} {k : String} (hk : k ∈ seeds) :
    ((seeds.eraseDups.map Entry.plain).map Entry.key)[seeds.eraseDups.idxOf k]? =
      some (Entry.plainKey k) := by
  have hlt := List.idxOf_lt_length_of_mem (List.mem_eraseDups.mpr hk)
  simp [List.getElem?_eq_getElem hlt]

section Skip

variable {es before after : List Entry} {x : Entry}

theorem keys_foldl_merge_skip (hx : x.key ∈ es.map Entry.key) :
    ((before ++ x :: after).foldl merge es).map Entry.key =
      ((before ++ after).foldl merge es).map Entry.key := by
  simp only [keys_foldl_merge, List.map_append, List.map_cons, List.filter_append,
    List.filter_cons, hx, not_true_eq_false, decide_false, Bool.false_eq_true, ↓reduceIte]

theorem entryOf_foldl_merge_skip {key : MessageKey} (hx : x.key ≠ key) :
    entryOf ((before ++ x :: after).foldl merge es) key =
      entryOf ((before ++ after).foldl merge es) key := by
  simp only [entryOf_foldl_merge, List.filter_append, List.filter_cons, hx, decide_false,
    Bool.false_eq_true, ↓reduceIte]

theorem getElem?_foldl_merge_skip (hn : (es.map Entry.key).Nodup) {i j : Nat}
    (hi : (es.map Entry.key)[i]? = some x.key) (hj : j ≠ i) :
    ((before ++ x :: after).foldl merge es)[j]? = ((before ++ after).foldl merge es)[j]? := by
  have hx : x.key ∈ es.map Entry.key := List.mem_of_getElem? hi
  have hn' := nodup_keys_foldl_merge hn (before ++ after)
  have hi' : (((before ++ after).foldl merge es).map Entry.key)[i]? = some x.key :=
    getElem?_of_prefix (prefix_keys_foldl_merge es (before ++ after)) hi
  rw [getElem?_eq_entryOf (nodup_keys_foldl_merge hn _), getElem?_eq_entryOf hn',
    keys_foldl_merge_skip hx]
  cases hk : (((before ++ after).foldl merge es).map Entry.key)[j]? with
  | none => rfl
  | some key =>
    have hne : x.key ≠ key := by
      intro he
      apply hj
      have hlt := (List.getElem?_eq_some_iff.mp hk).1
      exact (List.getElem?_inj hlt hn').mp (by rw [hk, hi', he])
    exact entryOf_foldl_merge_skip hne

end Skip

end Catalog

namespace Node

/-- At the address stands a call of a simple marker, on the given line, whose message has the given
text. -/
def SimpleCall (tree : Node) (address : Address) (line : Int) (text : String) : Prop :=
  ∃ func name first args keywords,
    tree.at? address = some (.call (some line) func (first :: args) keywords) ∧
    func.calleeName = some name ∧ name ∈ ["_", "N_", "s_"] ∧
    (Marker.unwrap first).text? = some text

theorem SimpleCall.candidate {tree : Node} {address : Address} {line : Int} {text : String}
    (h : tree.SimpleCall address line text) (filename : String) :
    ∃ comment, (tree.at? address >>= candidate? filename) =
      some (Entry.ofMessage { kind := .normal, msgid := text, comment }
        (reference filename line)) := by
  obtain ⟨func, name, first, args, keywords, hcall, hname, hsimple, htext⟩ := h
  have hmarker : Marker.ofName? name = some .simple := by
    simp only [List.mem_cons, List.not_mem_nil, or_false] at hsimple
    obtain rfl | rfl | rfl := hsimple <;> rfl
  refine ⟨Marker.textAt (first :: args) 1, ?_⟩
  rw [hcall]
  apply Collector.candidate?_eq_some_iff.mpr
  refine ⟨line, _, rfl, ?_, rfl⟩
  simp [message?, hname, hmarker, Marker.read, htext]

def candidatesBut (tree : Node) (address : Address) (filename : String) : List Entry :=
  (tree.calls.erase address).filterMap fun a => tree.at? a >>= candidate? filename

theorem candidates_split {tree : Node} {address : Address} {filename : String} {e : Entry}
    (h : (tree.at? address >>= candidate? filename) = some e) :
    ∃ before after, tree.candidates filename = before ++ e :: after ∧
      tree.candidatesBut address filename = before ++ after := by
  have hmem : address ∈ tree.calls := by
    obtain ⟨n, hn, he⟩ := Option.bind_eq_some_iff.mp h
    cases n with
    | call line func args keywords => exact mem_calls.mpr ⟨line, func, args, keywords, hn⟩
    | _ => cases he
  obtain ⟨as, bs, -, hsplit, herase⟩ := List.exists_erase_eq hmem
  rw [candidates, filterMap_events, candidatesBut, herase, hsplit]
  refine ⟨as.filterMap _, bs.filterMap _, ?_, List.filterMap_append⟩
  rw [List.filterMap_append, List.filterMap_cons, h]

end Node

namespace Collector

section Success

variable {tree : Node} {filename : String} {seeds : List String} {maxDepth : Option Int}
  {c : Collector}

theorem entries_of_visit_ok (h : visit tree (start filename seeds maxDepth) = .ok () c) :
    c.catalog.entries =
      (tree.candidates filename).foldl Catalog.merge (seeds.eraseDups.map Entry.plain) := by
  rw [visit_eq_follow tree [] _ rfl, follow_eq_ok_iff] at h
  rw [h.2, storing_catalog, Catalog.foldl_store_entries, start, Catalog.ofSeeds_entries]
  rfl

theorem references_of_visit_ok (h : visit tree (start filename seeds maxDepth) = .ok () c)
    {e : Entry} (he : e ∈ c.catalog.entries) :
    e.references = Catalog.placesFor (tree.candidates filename) e.key := by
  rw [entries_of_visit_ok h] at he
  rw [Catalog.references_foldl_merge (Catalog.nodup_seedKeys seeds) he, Catalog.entryOf_plain]
  split <;> rfl

theorem seed_of_visit_ok (h : visit tree (start filename seeds maxDepth) = .ok () c) {k : String}
    (hk : k ∈ seeds) :
    ∃ e, c.catalog.entries[seeds.eraseDups.idxOf k]? = some e ∧ e.key = Entry.plainKey k := by
  have hseeds := Catalog.prefix_keys_foldl_merge (seeds.eraseDups.map Entry.plain)
    (tree.candidates filename)
  rw [← entries_of_visit_ok h] at hseeds
  have hat := Catalog.getElem?_of_prefix hseeds (Catalog.getElem?_seedKeys hk)
  rwa [List.getElem?_map, Option.map_eq_some_iff] at hat

/-- Only recognised calls bring places, and their texts are escaped. -/
theorem isEscaped_of_place (h : visit tree (start filename seeds maxDepth) = .ok () c) {e : Entry}
    (he : e ∈ c.catalog.entries) {place : String} (hp : place ∈ e.references) :
    IsEscaped e.msgid := by
  rw [references_of_visit_ok h he] at hp
  obtain ⟨x, hx, hk, -⟩ := Catalog.mem_placesFor.mp hp
  obtain ⟨address, line, func, args, keywords, -, hc⟩ := Node.mem_candidates.mp hx
  obtain ⟨l, m, -, -, rfl⟩ := candidate?_eq_some_iff.mp hc
  have hmsgid : escape m.msgid = e.msgid := congrArg (·.2.1) hk
  rw [← hmsgid]
  exact isEscaped_escape m.msgid

end Success

/-- A simple call merges into the seed that has its text exactly when this text has no control
character. It then adds its place to the entry of the seed, and all other entries are what they
would be without this call. -/
theorem simple_call_merges_into_seed_iff (filename : String) (seeds : List String)
    (maxDepth : Option Int) (tree : Node) (address : Address) (line : Int) (k : String)
    (hk : k ∈ seeds) (hcall : tree.SimpleCall address line k) (c : Collector)
    (hvisit : visit tree (start filename seeds maxDepth) = .ok () c) :
    let entries := c.catalog.entries
    let others :=
      ((tree.candidatesBut address filename).foldl Catalog.store (Catalog.ofSeeds seeds)).entries
    let position := seeds.eraseDups.idxOf k
    ((∃ e, entries[position]? = some e ∧ e.key = (.normal, k, none) ∧
        filename ++ ":" ++ toString line ∈ e.references) ∧
      entries.map Entry.key = others.map Entry.key ∧
      ∀ i, i ≠ position → entries[i]? = others[i]?) ↔
    IsEscaped k := by
  intro entries others position
  constructor
  · rintro ⟨⟨e, he, hkey, hplace⟩, -⟩
    have hmsgid : e.msgid = k := congrArg (·.2.1) hkey
    rw [← hmsgid]
    exact isEscaped_of_place hvisit (List.mem_of_getElem? he) hplace
  · intro hescaped
    obtain ⟨comment, hcandidate⟩ := hcall.candidate filename
    obtain ⟨before, after, hall, hbut⟩ := Node.candidates_split hcandidate
    generalize hx : Entry.ofMessage _ _ = x at hall
    have hxkey : x.key = Entry.plainKey k := by
      rw [← hx]
      simp [Entry.key, Entry.ofMessage, Entry.plainKey, escape_eq_self_iff.mpr hescaped]
    have hentries : entries =
        (before ++ x :: after).foldl Catalog.merge (seeds.eraseDups.map Entry.plain) := by
      rw [← hall]
      exact entries_of_visit_ok hvisit
    have hothers : others =
        (before ++ after).foldl Catalog.merge (seeds.eraseDups.map Entry.plain) := by
      rw [← hbut, ← Catalog.ofSeeds_entries]
      exact Catalog.foldl_store_entries _ _
    have hposition := Catalog.getElem?_seedKeys hk
    rw [← hxkey] at hposition
    refine ⟨?_, ?_, fun i hi => ?_⟩
    · obtain ⟨e, he, hkey⟩ := seed_of_visit_ok hvisit hk
      refine ⟨e, he, hkey, ?_⟩
      rw [references_of_visit_ok hvisit (List.mem_of_getElem? he), hkey, hall]
      refine Catalog.mem_placesFor.mpr ⟨x, by simp, hxkey, ?_⟩
      rw [← hx]
      exact List.mem_singleton.mpr rfl
    · rw [hentries, hothers]
      exact Catalog.keys_foldl_merge_skip (List.mem_of_getElem? hposition)
    · rw [hentries, hothers]
      exact Catalog.getElem?_foldl_merge_skip (Catalog.nodup_seedKeys seeds) hposition hi

theorem wrapped_call_merges_into_seed :
    let text : Node := .constant (some 4) (.text "a\\b")
    let tree : Node := .other none
      [.call (some 4) (.attribute (some 4) (.name (some 4) "app") "_")
        [.sequence (some 4) [text]] []]
    let seeds := ["first", "a\\b", "first"]
    tree.SimpleCall [0] 4 "a\\b" ∧
    ∃ c, visit tree (start "f" seeds none) = .ok () c ∧
      ∃ e, c.catalog.entries[1]? = some e ∧ e.key = (.normal, "a\\b", none) ∧
        "f:4" ∈ e.references := by
  intro text tree seeds
  have hcall : tree.SimpleCall [0] 4 "a\\b" :=
    ⟨_, "_", _, _, _, rfl, rfl, by decide, rfl⟩
  have hescaped : IsEscaped "a\\b" := by decide +kernel
  have hiff := simple_call_merges_into_seed_iff "f" seeds none tree [0] 4 "a\\b" (by decide)
    hcall _ rfl
  exact ⟨hcall, _, rfl, (hiff.mpr hescaped).1⟩

/-- A seed with a raw newline stays unused, and the call with this text makes an entry of its
own. -/
theorem newline_keeps_call_from_seed :
    let tree : Node := .call (some 1) (.name (some 1) "_") [.constant (some 1) (.text "a\nb")] []
    let seeds := ["a\nb"]
    tree.SimpleCall [] 1 "a\nb" ∧
    ∃ c, visit tree (start "f" seeds none) = .ok () c ∧
      (¬ ∃ e ∈ c.catalog.entries[seeds.eraseDups.idxOf "a\nb"]?, "f:1" ∈ e.references) ∧
      c.catalog.entries =
        [Entry.plain "a\nb", { Entry.plain "a\\nb" with references := ["f:1"] }] := by
  intro tree seeds
  have hcall : tree.SimpleCall [] 1 "a\nb" :=
    ⟨_, "_", _, _, _, rfl, rfl, by decide, rfl⟩
  exact ⟨hcall, _, rfl, by decide +kernel, by decide +kernel⟩

end Collector

end Phrasebook
