import Mathlib.Data.List.Forall2
import Phrasebook.Proofs.Recording
import Phrasebook.Proofs.Relabelling

namespace Phrasebook

/-- Two faults of one class. A node that was too deep is named by the line that it has now. -/
inductive Fault.Relocated (g : Int → Int) (filename filename' : String) : Fault → Fault → Prop
  | tooDeep (line : Option Int) (limit : Int) :
    Relocated g filename filename' (.tooDeep filename (line.getD 0) limit)
      (.tooDeep filename' ((line.map g).getD 0) limit)
  | callWithoutLine : Relocated g filename filename' .callWithoutLine .callWithoutLine

namespace Entry

/-- Two entries with the same texts whose uses stand in different places: the lines of the first
one, in their order, are the lines of the second one. -/
structure Relocated (place place' : Int → String) (e e' : Entry) : Prop where
  kind : e'.kind = e.kind
  msgid : e'.msgid = e.msgid
  msgidPlural : e'.msgidPlural = e.msgidPlural
  msgctxt : e'.msgctxt = e.msgctxt
  comment : e'.comment = e.comment
  references : ∃ lines : List Int, e.references = lines.map place ∧ e'.references = lines.map place'

variable {place place' : Int → String} {e e' other other' : Entry}

theorem Relocated.key (h : Relocated place place' e e') : e'.key = e.key := by
  simp only [Entry.key, h.kind, h.msgid, h.msgctxt]

theorem relocated_plain (place place' : Int → String) (msgid : String) :
    Relocated place place' (plain msgid) (plain msgid) where
  kind := rfl
  msgid := rfl
  msgidPlural := rfl
  msgctxt := rfl
  comment := rfl
  references := ⟨[], rfl, rfl⟩

theorem relocated_ofMessage (place place' : Int → String) (m : Message) (line : Int) :
    Relocated place place' (ofMessage m (place line)) (ofMessage m (place' line)) where
  kind := rfl
  msgid := rfl
  msgidPlural := rfl
  msgctxt := rfl
  comment := rfl
  references := ⟨[line], rfl, rfl⟩

theorem Relocated.absorb (h : Relocated place place' e e')
    (ho : Relocated place place' other other') :
    Relocated place place' (e.absorb other) (e'.absorb other') where
  kind := h.kind
  msgid := h.msgid
  msgidPlural := h.msgidPlural
  msgctxt := h.msgctxt
  comment := by
    simp only [Entry.absorb, h.comment, ho.comment]
  references := by
    obtain ⟨lines, hl, hl'⟩ := h.references
    obtain ⟨more, hm, hm'⟩ := ho.references
    refine ⟨lines ++ more, ?_, ?_⟩
    · rw [absorb_references, hl, hm, List.map_append]
    · rw [absorb_references, hl', hm', List.map_append]

end Entry

theorem Catalog.relocated_merge {place place' : Int → String} {es es' : List Entry}
    (h : List.Forall₂ (Entry.Relocated place place') es es') {e e' : Entry}
    (he : e.Relocated place place' e') :
    List.Forall₂ (Entry.Relocated place place') (merge es e) (merge es' e') := by
  induction h with
  | nil => exact .cons he .nil
  | @cons x x' xs xs' hx hxs ih =>
    rw [merge, merge, hx.key, he.key]
    by_cases hk : x.key = e.key
    · rw [if_pos hk, if_pos hk]
      exact .cons (hx.absorb he) hxs
    · rw [if_neg hk, if_neg hk]
      exact .cons hx ih

namespace Collector

variable {g : Int → Int} {filename filename' : String} {c c' : Collector}

/-- Collectors that have seen the same messages, each in its own file. -/
structure Relocated (g : Int → Int) (filename filename' : String) (c c' : Collector) : Prop where
  file : c.filename = filename
  file' : c'.filename = filename'
  maxDepth : c'.maxDepth = c.maxDepth
  entries : List.Forall₂
    (Entry.Relocated (reference filename) (fun line => reference filename' (g line)))
    c.catalog.entries c'.catalog.entries

theorem relocated_start (g : Int → Int) (filename filename' : String) (seeds : List String)
    (maxDepth : Option Int) :
    Relocated g filename filename' (start filename seeds maxDepth)
      (start filename' seeds maxDepth) := by
  refine ⟨rfl, rfl, rfl, ?_⟩
  have hentries : ∀ name, (start name seeds maxDepth).catalog.entries =
      seeds.eraseDups.map Entry.plain := fun _ => Catalog.ofSeeds_entries seeds
  rw [hentries, hentries, List.forall₂_map_left_iff, List.forall₂_map_right_iff,
    List.forall₂_same]
  exact fun seed _ => Entry.relocated_plain _ _ seed

theorem relocated_candidate? (g : Int → Int) (filename filename' : String) (e : Event) :
    Option.Rel
      (Entry.Relocated (reference filename) (fun line => reference filename' (g line)))
      (e.candidate? filename) ((e.relabel g).candidate? filename') := by
  cases e with
  | enter => exact .none
  | recognize address line func args =>
    simp only [Event.candidate?, Event.relabel, candidate?, entryFor, Node.message?_relabel]
    cases func.message? args with
    | none => exact .none
    | some m =>
      cases line with
      | none => exact .none
      | some line =>
        exact .some (Entry.relocated_ofMessage (reference filename)
          (fun line => reference filename' (g line)) m line)

theorem relocated_fault (g : Int → Int) (filename filename' : String) (maxDepth : Option Int)
    (e : Event) :
    Fault.Relocated g filename filename' (e.fault filename maxDepth)
      ((e.relabel g).fault filename' maxDepth) := by
  cases e with
  | enter address line => exact .tooDeep line _
  | recognize => exact .callWithoutLine

theorem Relocated.storing (h : Relocated g filename filename' c c') (e : Event) :
    Relocated g filename filename' (c.storing [e]) (c'.storing [e.relabel g]) := by
  refine ⟨h.file, h.file', h.maxDepth, ?_⟩
  have hcandidate := relocated_candidate? g filename filename' e
  simp only [Collector.storing_catalog, Catalog.foldl_store_entries, List.filterMap_cons, h.file,
    h.file']
  generalize e.candidate? filename = found at hcandidate ⊢
  generalize (e.relabel g).candidate? filename' = found' at hcandidate ⊢
  cases hcandidate with
  | none => exact h.entries
  | some hx => exact Catalog.relocated_merge h.entries hx

/-- Two runs side by side: no event tells the collectors apart, so they stop at the same one. -/
theorem Relocated.follow (h : Relocated g filename filename' c c') (es : List Event) :
    Option.Rel (Fault.Relocated g filename filename') (fault? (Collector.follow es c))
      (fault? (Collector.follow (es.map (Event.relabel g)) c')) ∧
    Relocated g filename filename' (final (Collector.follow es c))
      (final (Collector.follow (es.map (Event.relabel g)) c')) := by
  induction es generalizing c c' with
  | nil => exact ⟨.none, h⟩
  | cons e es ih =>
    simp only [List.map_cons, Collector.follow, Event.offends_relabel, h.maxDepth, h.file,
      h.file']
    by_cases ho : e.offends c.maxDepth = true
    · rw [if_pos ho, if_pos ho]
      exact ⟨.some (relocated_fault g filename filename' c.maxDepth e), h⟩
    · rw [if_neg ho, if_neg ho]
      exact ih (h.storing e)

/-- Where messages stand has no influence on them. When the lines of a tree are replaced and the
file has another name, the visit ends in the same way, and every entry is what it was but for the
places, which are the old ones line by line. -/
theorem locations_never_influence_messages (tree : Node) (g : Int → Int)
    (filename filename' : String) (seeds : List String) (maxDepth : Option Int) :
    let run := visit tree (start filename seeds maxDepth)
    let run' := visit (tree.relabel g) (start filename' seeds maxDepth)
    Option.Rel (Fault.Relocated g filename filename') (fault? run) (fault? run') ∧
    List.Forall₂
      (Entry.Relocated (fun line => filename ++ ":" ++ toString line)
        (fun line => filename' ++ ":" ++ toString (g line)))
      (final run).catalog.entries (final run').catalog.entries := by
  intro run run'
  have hrun : run = follow (tree.events []) (start filename seeds maxDepth) :=
    visit_eq_follow tree [] _ rfl
  have hrun' : run' =
      follow ((tree.events []).map (Event.relabel g)) (start filename' seeds maxDepth) := by
    rw [← Node.events_relabel]
    exact visit_eq_follow (tree.relabel g) [] _ rfl
  have hstart := relocated_start g filename filename' seeds maxDepth
  obtain ⟨hfault, hfinal⟩ := hstart.follow (tree.events [])
  rw [← hrun, ← hrun'] at hfault hfinal
  exact ⟨hfault, hfinal.entries⟩

theorem locations_never_influence_messages_collapsed :
    let tree : Node := .other none [.marked 1 "a" "one", .marked 2 "a" "two", .marked 3 "b" ""]
    let run := visit tree (start "f" [] none)
    let run' := visit (tree.relabel fun _ => 5) (start "h" [] none)
    fault? run = none ∧ fault? run' = none ∧
    (final run).catalog.entries.map Entry.references = [["f:1", "f:2"], ["f:3"]] ∧
    (final run').catalog.entries.map Entry.references = [["h:5", "h:5"], ["h:5"]] ∧
    (final run').catalog.entries.map Entry.comment = [some "one\ntwo", none] ∧
    List.Forall₂
      (Entry.Relocated (fun line => "f" ++ ":" ++ toString line)
        (fun _ => "h" ++ ":" ++ toString (5 : Int)))
      (final run).catalog.entries (final run').catalog.entries := by
  intro tree run run'
  refine ⟨by decide +kernel, by decide +kernel, by decide +kernel, by decide +kernel,
    by decide +kernel, ?_⟩
  exact (locations_never_influence_messages tree (fun _ => 5) "f" "h" [] none).2

end Collector

end Phrasebook
