import Phrasebook.Proofs.Escaping
import Phrasebook.Proofs.Recording
import Phrasebook.Proofs.TextLines

namespace Phrasebook

open Text

namespace Entry

/-- A comment is kept unless its text stands in a single one that is kept already. -/
def keepComment (kept : List String) (s : String) : List String :=
  if ∃ k ∈ kept, s.toList <:+: k.toList then kept else kept ++ [s]

def keptComments (comments : List String) : List String := comments.foldl keepComment []

def commentOf (kept : List String) : Option String :=
  if kept = [] then none else some ("\n".intercalate kept)

theorem commentOf_eq_none_iff {kept : List String} : commentOf kept = none ↔ kept = [] := by
  simp [commentOf]

theorem lines_of_commentOf {kept : List String} (hk : ∀ k ∈ kept, IsLine k) {text : String}
    (h : commentOf kept = some text) : lines text = kept := by
  unfold commentOf at h
  split at h
  · cases h
  · rename_i hne
    cases h
    exact lines_intercalate hne hk

section Keeping

variable {kept : List String} {s : String}

theorem prefix_keepComment (kept : List String) (s : String) : kept <+: keepComment kept s := by
  unfold keepComment
  split
  · exact List.prefix_rfl
  · exact List.prefix_append _ _

theorem isLine_keepComment (hk : ∀ k ∈ kept, IsLine k) (hs : IsLine s) :
    ∀ k ∈ keepComment kept s, IsLine k := by
  unfold keepComment
  split
  · exact hk
  · simpa [or_imp, forall_and] using ⟨hk, hs⟩

theorem pairwise_keepComment (hk : kept.Pairwise fun a b => ¬ b.toList <:+: a.toList) (s : String) :
    (keepComment kept s).Pairwise fun a b => ¬ b.toList <:+: a.toList := by
  unfold keepComment
  split
  · exact hk
  · rename_i hn
    rw [List.pairwise_append]
    refine ⟨hk, List.pairwise_singleton _ _, fun k hkept t ht hin => hn ⟨k, hkept, ?_⟩⟩
    rwa [List.mem_singleton.mp ht] at hin

theorem exists_keepComment (kept : List String) (s : String) :
    ∃ k ∈ keepComment kept s, s.toList <:+: k.toList := by
  unfold keepComment
  split
  · assumption
  · exact ⟨s, by simp, List.infix_rfl⟩

/-- Merging compares with the whole comment at once, to the same effect. -/
theorem mergeComments_commentOf (hk : ∀ k ∈ kept, IsLine k) (hs : IsLine s) :
    mergeComments (commentOf kept) (some s) = commentOf (keepComment kept s) := by
  by_cases hne : kept = []
  · subst hne
    simp [commentOf, keepComment, mergeComments, joinComments, hs.ne_empty]
  · have htext := intercalate_ne_empty hne hk
    have hin := contains_intercalate_iff hs hne
    by_cases hc : ∃ k ∈ kept, s.toList <:+: k.toList
    · simp [commentOf, keepComment, mergeComments, hne, hc, htext, hs.ne_empty, hin.mpr hc]
    · have hjoin : "\n".intercalate (kept ++ [s]) = "\n".intercalate kept ++ "\n" ++ s := by
        rw [String.intercalate_append_of_ne_nil hne (by simp), String.intercalate_singleton]
      have hout : ¬ contains ("\n".intercalate kept) s = true := fun h => hc (hin.mp h)
      simp [commentOf, keepComment, mergeComments, joinComments, hne, hc, htext, hs.ne_empty, hout,
        hjoin]

end Keeping

section Scan

theorem prefix_foldl_keepComment (kept comments : List String) :
    kept <+: comments.foldl keepComment kept := by
  induction comments generalizing kept with
  | nil => exact List.prefix_rfl
  | cons s comments ih => exact (prefix_keepComment kept s).trans (ih _)

theorem isLine_foldl_keepComment {kept comments : List String} (hk : ∀ k ∈ kept, IsLine k)
    (hc : ∀ s ∈ comments, IsLine s) : ∀ k ∈ comments.foldl keepComment kept, IsLine k := by
  induction comments generalizing kept with
  | nil => exact hk
  | cons s comments ih =>
    rw [List.forall_mem_cons] at hc
    exact ih (isLine_keepComment hk hc.1) hc.2

theorem pairwise_foldl_keepComment {kept : List String}
    (hk : kept.Pairwise fun a b => ¬ b.toList <:+: a.toList) (comments : List String) :
    (comments.foldl keepComment kept).Pairwise fun a b => ¬ b.toList <:+: a.toList := by
  induction comments generalizing kept with
  | nil => exact hk
  | cons s comments ih => exact ih (pairwise_keepComment hk s)

theorem exists_foldl_keepComment (kept comments : List String) :
    ∀ s ∈ comments, ∃ k ∈ comments.foldl keepComment kept, s.toList <:+: k.toList := by
  induction comments generalizing kept with
  | nil => simp
  | cons s comments ih =>
    rw [List.forall_mem_cons]
    refine ⟨?_, ih _⟩
    obtain ⟨k, hk, hs⟩ := exists_keepComment kept s
    exact ⟨k, (prefix_foldl_keepComment _ comments).subset hk, hs⟩

theorem keptComments_eq_nil_iff {comments : List String} :
    keptComments comments = [] ↔ comments = [] := by
  constructor
  · intro h
    cases comments with
    | nil => rfl
    | cons s comments =>
      obtain ⟨k, hk, -⟩ := exists_foldl_keepComment [] (s :: comments) s List.mem_cons_self
      change k ∈ keptComments (s :: comments) at hk
      simp [h] at hk
  · rintro rfl
    rfl

end Scan

theorem mergeComments_none (old : Option String) : mergeComments old none = old := by
  simp [mergeComments, joinComments]

theorem none_mergeComments {s : String} (hs : IsLine s) : mergeComments none (some s) = some s := by
  simp [mergeComments, joinComments, hs.ne_empty]

theorem comment_gather {start : Option Entry} {es : List Entry} {x : Entry} {kept : List String}
    (hk : ∀ k ∈ kept, IsLine k) (hstart : start.bind Entry.comment = commentOf kept)
    (hes : ∀ e ∈ es, ∀ s, e.comment = some s → IsLine s) (h : gather start es = some x) :
    x.comment = commentOf ((es.filterMap Entry.comment).foldl keepComment kept) := by
  -- `kept` holds the lines of the comment so far
  induction es generalizing start kept with
  | nil =>
    have hs : start = some x := h
    simpa [hs] using hstart
  | cons e es ih =>
    rw [List.forall_mem_cons] at hes
    rw [gather_cons] at h
    have hmerge : (some (start.elim e (·.absorb e))).bind Entry.comment =
        mergeComments (start.bind Entry.comment) e.comment := by
      cases start with
      | some y => rfl
      | none =>
        cases hc : e.comment with
        | none => exact hc.trans (mergeComments_none none).symm
        | some s => exact hc.trans (none_mergeComments (hes.1 s hc)).symm
    rw [hstart] at hmerge
    cases hc : e.comment with
    | none =>
      rw [hc, mergeComments_none] at hmerge
      simpa [hc] using ih hk hmerge hes.2 h
    | some s =>
      have hs := hes.1 s hc
      rw [hc, mergeComments_commentOf hk hs] at hmerge
      simpa [hc] using ih (isLine_keepComment hk hs) hmerge hes.2 h

theorem isLine_ofMessage {m : Message} {place s : String}
    (h : (ofMessage m place).comment = some s) :
    IsLine s := by
  obtain ⟨hne, t, rfl⟩ := comment_ofMessage h
  exact ⟨hne, control_not_mem_escape (by simp [controlCodes]) t⟩

end Entry

theorem Collector.Recognised.isLine {filename : String} {e : Entry} (he : Recognised filename e)
    {s : String} (hs : e.comment = some s) : IsLine s := by
  obtain ⟨line, func, args, h⟩ := he
  unfold entryFor at h
  split at h
  · cases h
  · cases h
  · cases h
    exact Entry.isLine_ofMessage hs

namespace Catalog

theorem gather_of_mem_foldl_store {seeds : List String} {candidates : List Entry} {e : Entry}
    (he : e ∈ (candidates.foldl store (ofSeeds seeds)).entries) :
    Entry.gather (entryOf (seeds.eraseDups.map Entry.plain) e.key)
      (candidates.filter (·.key = e.key)) = some e := by
  rw [store_eq_apply] at he
  have hg := gather_of_mem_ofHistory he
  rw [List.filter_map, List.map_map] at hg
  have hid : Operation.candidate ∘ Operation.insert = id := rfl
  rw [hid, List.map_id] at hg
  exact hg

theorem comment_of_mem_foldl_store {seeds : List String} {candidates : List Entry}
    (hc : ∀ c ∈ candidates, ∀ s, c.comment = some s → IsLine s) {e : Entry}
    (he : e ∈ (candidates.foldl store (ofSeeds seeds)).entries) :
    e.comment = Entry.commentOf
      (Entry.keptComments ((candidates.filter (·.key = e.key)).filterMap Entry.comment)) := by
  refine Entry.comment_gather (by simp) ?_ (fun c hm => hc c (List.mem_of_mem_filter hm))
    (gather_of_mem_foldl_store he)
  rw [entryOf_plain]
  split <;> rfl

/-- How the comments of the candidates show in the entries: each on a line of its own, in their
order, but none that stands in an earlier line. -/
def CommentsMerged (candidates entries : List Entry) : Prop :=
  ∀ e ∈ entries,
    let comments := (candidates.filter (·.key = e.key)).filterMap Entry.comment
    (e.comment = none ↔ ∀ c ∈ candidates, c.key = e.key → c.comment = none) ∧
    ∀ text, e.comment = some text →
      lines text = Entry.keptComments comments ∧
      (lines text).Pairwise (fun earlier later => ¬ later.toList <:+: earlier.toList) ∧
      ∀ s ∈ comments, ∃ line ∈ lines text, s.toList <:+: line.toList

theorem commentsMerged_foldl_store (seeds : List String) {candidates : List Entry}
    (hc : ∀ c ∈ candidates, ∃ filename, Collector.Recognised filename c) :
    CommentsMerged candidates (candidates.foldl store (ofSeeds seeds)).entries := by
  have hlines : ∀ c ∈ candidates, ∀ s, c.comment = some s → IsLine s := by
    intro c hm s hs
    obtain ⟨filename, hr⟩ := hc c hm
    exact hr.isLine hs
  intro e he comments
  have hcomment : e.comment = Entry.commentOf (Entry.keptComments comments) :=
    comment_of_mem_foldl_store hlines he
  have hcomments : ∀ s ∈ comments, IsLine s := by
    intro s hs
    obtain ⟨c, hm, hs⟩ := List.mem_filterMap.mp hs
    exact hlines c (List.mem_of_mem_filter hm) s hs
  constructor
  · rw [hcomment, Entry.commentOf_eq_none_iff, Entry.keptComments_eq_nil_iff,
      List.filterMap_eq_nil_iff]
    simp only [List.mem_filter, decide_eq_true_eq, and_imp]
  · intro text htext
    have hkept : lines text = Entry.keptComments comments := by
      apply Entry.lines_of_commentOf
      · exact Entry.isLine_foldl_keepComment (by simp) hcomments
      · exact hcomment.symm.trans htext
    rw [hkept]
    exact ⟨rfl, Entry.pairwise_foldl_keepComment .nil comments,
      Entry.exists_foldl_keepComment [] comments⟩

/-- Comments of recognised calls are merged line by line, whether their entries are stored directly
or by visits to trees. -/
theorem recognised_comments_merged (seeds : List String) :
    (∀ candidates : List Entry,
      (∀ c ∈ candidates, ∃ filename, Collector.Recognised filename c) →
        CommentsMerged candidates (candidates.foldl store (ofSeeds seeds)).entries) ∧
    ∀ (filename : String) (maxDepth : Option Int) (trees : List Node),
      CommentsMerged (trees.flatMap (Collector.start filename [] maxDepth).passed)
        (Collector.session filename seeds maxDepth (trees.map .visit)).catalog.entries := by
  refine ⟨fun candidates => commentsMerged_foldl_store seeds, fun filename maxDepth trees => ?_⟩
  rw [Collector.session_visits_catalog]
  apply commentsMerged_foldl_store
  intro c hc
  obtain ⟨tree, -, hm⟩ := List.mem_flatMap.mp hc
  exact ⟨filename, (Collector.visit_spec _ tree).1 c hm⟩

theorem recognised_comments_merged_three :
    let use (line : Int) (comment : String) : Entry :=
      Entry.ofMessage { kind := .normal, msgid := "m", comment := some comment }
        (reference "f" line)
    let candidates := [use 1 "one", use 2 "two", use 3 "on"]
    (∀ c ∈ candidates, ∃ filename, Collector.Recognised filename c) ∧
      CommentsMerged candidates (candidates.foldl store (ofSeeds ["m"])).entries ∧
      (candidates.foldl store (ofSeeds ["m"])).entries.map Entry.comment =
        [some "one\ntwo"] := by
  intro use candidates
  have hcall : ∀ line comment, Collector.Recognised "f" (use line comment) := fun line comment =>
    ⟨some line, .name none "_",
      [.constant none (.text "m"), .constant none (.text comment)], rfl⟩
  have hc : ∀ c ∈ candidates, ∃ filename, Collector.Recognised filename c := by
    simp only [candidates, List.forall_mem_cons]
    exact ⟨⟨"f", hcall 1 "one"⟩, ⟨"f", hcall 2 "two"⟩, ⟨"f", hcall 3 "on"⟩, by simp⟩
  exact ⟨hc, (recognised_comments_merged ["m"]).1 candidates hc, by decide +kernel⟩

end Catalog

end Phrasebook
