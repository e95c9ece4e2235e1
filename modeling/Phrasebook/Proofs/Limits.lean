import Phrasebook.Proofs.Growth

namespace Phrasebook

/-- The second limit on nesting allows whatever the first one does. To have no limit allows all. -/
def NoTighter : Option Int → Option Int → Prop
  | _, none => True
  | none, some _ => False
  | some limit, some limit' => limit ≤ limit'

namespace Event

variable {limit limit' : Option Int}

theorem offends_of_noTighter (h : NoTighter limit limit') {e : Event}
    (he : e.offends limit' = true) : e.offends limit = true := by
  cases e with
  | recognize => exact he
  | enter address line =>
    rw [offends_enter_iff] at he ⊢
    obtain ⟨m', rfl, hm'⟩ := he
    cases limit with
    | none => exact h.elim
    | some m =>
      have hm : m ≤ m' := h
      exact ⟨m, rfl, by omega⟩

theorem clean_of_noTighter (h : NoTighter limit limit') {es : List Event}
    (hes : ∀ e ∈ es, e.offends limit = false) : ∀ e ∈ es, e.offends limit' = false := by
  intro e he
  rw [← Bool.not_eq_true]
  intro ho
  have ho' := offends_of_noTighter h ho
  rw [hes e he] at ho'
  cases ho'

end Event

namespace Collector

def withLimit (c : Collector) (maxDepth : Option Int) : Collector := { c with maxDepth }

theorem storing_withLimit (c : Collector) (limit : Option Int) (es : List Event) :
    (c.withLimit limit).storing es = (c.storing es).withLimit limit := rfl

theorem follow_clean_append {es : List Event} {c : Collector}
    (h : ∀ e ∈ es, e.offends c.maxDepth = false) (fs : List Event) :
    follow (es ++ fs) c = follow fs (c.storing es) := by
  have hes : follow es c = .ok () (c.storing es) := (follow_eq_ok_iff es c _).mpr ⟨h, rfl⟩
  rw [follow_append]
  simp only [bind, EStateM.bind, hes]

/-- How a run ends when its limit is made looser: either the limit had no part in how it ended, or
the run goes on from where the limit had stopped it. -/
theorem follow_withLimit (es : List Event) (c : Collector) {limit : Option Int}
    (h : NoTighter c.maxDepth limit) :
    ((∀ f l m, fault? (follow es c) ≠ some (.tooDeep f l m)) ∧
      follow es (c.withLimit limit) =
        ending ((final (follow es c)).withLimit limit) (fault? (follow es c))) ∨
    ((∃ f l m, fault? (follow es c) = some (.tooDeep f l m)) ∧
      ∃ more, final (follow es (c.withLimit limit)) =
        ((final (follow es c)).withLimit limit).storing more) := by
  cases hrun : follow es c with
  | ok u s =>
    obtain ⟨hes, rfl⟩ := (follow_eq_ok_iff es c s).mp hrun
    left
    refine ⟨nofun, ?_⟩
    exact (follow_eq_ok_iff es _ _).mpr ⟨Event.clean_of_noTighter h hes, rfl⟩
  | error fault s =>
    obtain ⟨before, e, rest, rfl, hb, he, rfl, rfl⟩ := (follow_eq_error_iff es c s fault).mp hrun
    cases e with
    | recognize address line func args =>
      -- a message without a line stops a run under any limit
      left
      refine ⟨nofun, ?_⟩
      have hb' := Event.clean_of_noTighter h hb
      exact (follow_eq_error_iff _ _ _ _).mpr ⟨before, _, rest, rfl, hb', he, rfl, rfl⟩
    | enter address line =>
      right
      refine ⟨⟨_, _, _, rfl⟩, ?_⟩
      rw [follow_clean_append (Event.clean_of_noTighter h hb), storing_withLimit]
      obtain ⟨more, fault, -, hmore⟩ :=
        follow_eq_ending (.enter address line :: rest) ((c.storing before).withLimit limit)
      rw [hmore, final_ending]
      exact ⟨more, rfl⟩

/-- A looser limit can only let a visit go on. A visit that the limit does not stop ends the same
way, with the same entries. Of one that it stops, all entries stand where they stood, and they have
at most grown. -/
theorem looser_limit_extends_visit (tree : Node) (filename : String) (seeds : List String)
    (limit limit' : Option Int) (h : NoTighter limit limit') :
    let tight := visit tree (start filename seeds limit)
    let loose := visit tree (start filename seeds limit')
    let entries := (final tight).catalog.entries
    let entries' := (final loose).catalog.entries
    ((∀ f l m, fault? tight ≠ some (.tooDeep f l m)) →
      fault? loose = fault? tight ∧ entries' = entries) ∧
    ((∃ f l m, fault? tight = some (.tooDeep f l m)) →
      entries.map Entry.key <+: entries'.map Entry.key ∧
      ∀ (i : Nat) (old : Entry), entries[i]? = some old →
        ∃ new, entries'[i]? = some new ∧ old.Grows new) := by
  intro tight loose entries entries'
  have htight : tight = follow (tree.events []) (start filename seeds limit) :=
    visit_eq_follow tree [] _ rfl
  have hloose : loose =
      follow (tree.events []) ((start filename seeds limit).withLimit limit') :=
    visit_eq_follow tree [] (start filename seeds limit') rfl
  obtain ⟨hfault, hend⟩ | ⟨hfault, more, hmore⟩ :=
    follow_withLimit (tree.events []) (start filename seeds limit) h
  · rw [← htight] at hfault hend
    rw [← hloose] at hend
    refine ⟨fun _ => ?_, fun ⟨f, l, m, hf⟩ => absurd hf (hfault f l m)⟩
    have hentries : entries' = entries := by
      simp only [entries', hend, final_ending]
      rfl
    exact ⟨by rw [hend, fault?_ending], hentries⟩
  · rw [← htight] at hfault hmore
    rw [← hloose] at hmore
    refine ⟨fun hnot => ?_, fun _ => ?_⟩
    · obtain ⟨f, l, m, hf⟩ := hfault
      exact absurd hf (hnot f l m)
    · have hext : Catalog.Extends entries entries' := by
        simp only [entries', hmore, storing_catalog, Catalog.foldl_store_entries]
        exact Catalog.extends_foldl_merge entries _
      exact ⟨hext.prefix_keys, hext⟩

theorem looser_limit_extends_visit_nested :
    let use (line : Int) (text comment : String) : Node :=
      .call (some line) (.name (some line) "_")
        [.constant (some line) (.text text), .constant (some line) (.text comment)] []
    let tree : Node := .other none
      [use 1 "a" "first", .call (some 2) (.name (some 2) "f") [use 3 "a" "second", use 4 "b" ""] []]
    let tight := visit tree (start "f" ["s"] (some 3))
    let loose := visit tree (start "f" ["s"] none)
    NoTighter (some 3) none ∧ fault? tight = some (.tooDeep "f" 3 3) ∧ fault? loose = none ∧
    (final tight).catalog.entries.map Entry.comment = [none, some "first"] ∧
    (final loose).catalog.entries.map Entry.comment = [none, some "first\nsecond", none] ∧
    ∀ (i : Nat) (old : Entry), (final tight).catalog.entries[i]? = some old →
      ∃ new, (final loose).catalog.entries[i]? = some new ∧ old.Grows new := by
  intro use tree tight loose
  have hfault : fault? tight = some (.tooDeep "f" 3 3) := by decide +kernel
  refine ⟨trivial, hfault, by decide +kernel, by decide +kernel, by decide +kernel, ?_⟩
  exact ((looser_limit_extends_visit tree "f" ["s"] (some 3) none trivial).2 ⟨_, _, _, hfault⟩).2

end Collector

end Phrasebook
