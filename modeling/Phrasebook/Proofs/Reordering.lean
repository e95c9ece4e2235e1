import Mathlib.Data.List.FinRange
import Mathlib.Data.List.Perm.Basic
import Mathlib.Data.List.Sort
import Mathlib.Logic.Equiv.Basic
import Phrasebook.Proofs.Revisit

namespace Phrasebook

/-- A way to bring the operations of one history into the order of another: every operation moves
to a position of its own. -/
structure Rearrangement (ops ops' : List Operation) where
  move : Fin ops.length ≃ Fin ops'.length
  get_move : ∀ i, ops'.get (move i) = ops.get i

namespace Rearrangement

variable {ops ops' : List Operation}

/-- Operations for one message do not overtake each other. -/
def KeepsOrder (r : Rearrangement ops ops') : Prop :=
  ∀ i j, i < j → (ops.get i).candidate.key = (ops.get j).candidate.key → r.move i < r.move j

theorem get_comp_move (r : Rearrangement ops ops') : ops'.get ∘ r.move = ops.get := by
  funext i
  exact r.get_move i

theorem perm (r : Rearrangement ops ops') : ops.Perm ops' := by
  have hmove : ((List.finRange ops.length).map r.move).Perm (List.finRange ops'.length) := by
    have hn := (List.nodup_finRange ops.length).map r.move.injective
    rw [List.perm_ext_iff_of_nodup hn (List.nodup_finRange _)]
    intro j
    simpa using ⟨r.move.symm j, r.move.apply_symm_apply j⟩
  have h := hmove.map ops'.get
  rwa [List.map_map, r.get_comp_move, List.map_get_finRange, List.map_get_finRange] at h

def positions (ops : List Operation) (key : MessageKey) : List (Fin ops.length) :=
  (List.finRange ops.length).filter fun i => (ops.get i).candidate.key = key

theorem mem_positions {key : MessageKey} {i : Fin ops.length} :
    i ∈ positions ops key ↔ (ops.get i).candidate.key = key := by
  simp [positions]

theorem pairwise_positions (ops : List Operation) (key : MessageKey) :
    (positions ops key).Pairwise (· < ·) :=
  (List.pairwise_lt_finRange ops.length).filter _

theorem map_get_positions (ops : List Operation) (key : MessageKey) :
    (positions ops key).map ops.get = ops.filter fun op => op.candidate.key = key := by
  conv_rhs => rw [← List.map_get_finRange ops]
  rw [List.filter_map]
  rfl

theorem KeepsOrder.map_positions {r : Rearrangement ops ops'} (h : r.KeepsOrder)
    (key : MessageKey) : (positions ops key).map r.move = positions ops' key := by
  have hmoved : ((positions ops key).map r.move).Pairwise (· < ·) := by
    rw [List.pairwise_map]
    refine List.Pairwise.imp_of_mem ?_ (pairwise_positions ops key)
    intro i j hi hj hij
    apply h i j hij
    rw [mem_positions.mp hi, mem_positions.mp hj]
  apply hmoved.eq_of_mem_iff (pairwise_positions ops' key)
  intro j
  rw [List.mem_map, mem_positions]
  constructor
  · rintro ⟨i, hi, rfl⟩
    rw [r.get_move]
    exact mem_positions.mp hi
  · intro hj
    refine ⟨r.move.symm j, mem_positions.mpr ?_, r.move.apply_symm_apply j⟩
    rwa [← r.get_move, r.move.apply_symm_apply]

/-- Seen from one message, nothing has been moved. -/
theorem KeepsOrder.filter_eq {r : Rearrangement ops ops'} (h : r.KeepsOrder) (key : MessageKey) :
    (ops.filter fun op => op.candidate.key = key) =
      ops'.filter fun op => op.candidate.key = key := by
  rw [← map_get_positions, ← map_get_positions, ← h.map_positions, List.map_map, r.get_comp_move]

end Rearrangement

namespace Entry

theorem mergeComments_eq_empty_iff (old added : Option String) :
    (mergeComments old added).getD "" = "" ↔ old.getD "" = "" ∧ added.getD "" = "" := by
  constructor
  · intro h
    have hold := prefix_mergeComments old added
    have hadded := infix_mergeComments old added
    rw [h] at hold hadded
    exact ⟨String.toList_eq_nil_iff.mp (List.prefix_nil.mp hold),
      String.toList_eq_nil_iff.mp (List.infix_nil.mp hadded)⟩
  · rintro ⟨hold, hadded⟩
    have hin : (added.getD "").toList <:+: (old.getD "").toList := by simp [hadded]
    have hkeep := mergeComments_of_infix hin
    rw [hkeep, hold]

theorem comment_gather_eq_empty_iff {start : Option Entry} {es : List Entry} {x : Entry}
    (h : gather start es = some x) :
    x.comment.getD "" = "" ↔
      (start.bind Entry.comment).getD "" = "" ∧ ∀ e ∈ es, e.comment.getD "" = "" := by
  induction es generalizing start with
  | nil =>
    have hs : start = some x := h
    simp [hs]
  | cons e es ih =>
    rw [gather_cons] at h
    rw [ih h, List.forall_mem_cons, ← and_assoc]
    apply and_congr_left'
    cases start with
    | none => simp
    | some s => exact mergeComments_eq_empty_iff s.comment e.comment

/-- What does not depend on the order in which entries are run together. -/
theorem gather_perm {start : Option Entry} {es es' : List Entry} (h : es.Perm es') {x x' : Entry}
    (hx : gather start es = some x) (hx' : gather start es' = some x') :
    x.references.Perm x'.references ∧ (x.comment.getD "" = "" ↔ x'.comment.getD "" = "") := by
  constructor
  · rw [references_gather hx, references_gather hx']
    exact List.Perm.append_left _ (h.flatMap_right _)
  · rw [comment_gather_eq_empty_iff hx, comment_gather_eq_empty_iff hx']
    simp only [h.mem_iff]

end Entry

namespace Catalog

theorem seedKeys_prefix_ofHistory (seeds : List String) (ops : List Operation) :
    (seeds.eraseDups.map Entry.plain).map Entry.key <+:
      (ofHistory seeds ops).entries.map Entry.key := by
  rw [ofHistory_entries]
  exact prefix_keys_foldl_merge _ _

theorem mem_keys_ofHistory {seeds : List String} {ops : List Operation} {key : MessageKey} :
    key ∈ (ofHistory seeds ops).entries.map Entry.key ↔
      key ∈ (seeds.eraseDups.map Entry.plain).map Entry.key ∨
        ∃ op ∈ ops, op.candidate.key = key := by
  rw [ofHistory_entries, mem_keys_foldl_merge]
  apply or_congr_right
  simp only [List.mem_map, exists_exists_and_eq_and]

theorem mem_iff_entryOf {es : List Entry} (hn : (es.map Entry.key).Nodup) {e : Entry} :
    e ∈ es ↔ entryOf es e.key = some e :=
  ⟨entryOf_of_mem hn, List.mem_of_find?_eq_some⟩

theorem perm_of_entryOf_eq {es fs : List Entry} (hes : (es.map Entry.key).Nodup)
    (hfs : (fs.map Entry.key).Nodup) (h : ∀ key, entryOf es key = entryOf fs key) :
    es.Perm fs := by
  rw [List.perm_ext_iff_of_nodup (List.Nodup.of_map _ hes) (List.Nodup.of_map _ hfs)]
  intro e
  rw [mem_iff_entryOf hes, mem_iff_entryOf hfs, h]

/-- The order of a history decides on little. In whatever order the operations come, the same
messages have entries, with the same places up to their order, and with a comment in either case or
in none. If operations for one message do not overtake each other, the entries themselves are the
same, and only those of messages that are no seeds can stand at other positions. -/
theorem rearranged_history_same_messages (seeds : List String) (ops ops' : List Operation)
    (r : Rearrangement ops ops') :
    let entries := (ofHistory seeds ops).entries
    let entries' := (ofHistory seeds ops').entries
    (∀ key, key ∈ entries.map Entry.key ↔ key ∈ entries'.map Entry.key) ∧
    (∀ e ∈ entries, ∀ e' ∈ entries', e.key = e'.key →
      e.references.Perm e'.references ∧ (e.comment.getD "" ≠ "" ↔ e'.comment.getD "" ≠ "")) ∧
    (r.KeepsOrder →
      (∀ e ∈ entries, ∀ e' ∈ entries', e.key = e'.key → e = e') ∧
      entries.Perm entries' ∧
      ∀ i, i < seeds.eraseDups.length → entries[i]? = entries'[i]?) := by
  intro entries entries'
  have hn : (entries.map Entry.key).Nodup := (coherent_ofHistory seeds ops).nodup
  have hn' : (entries'.map Entry.key).Nodup := (coherent_ofHistory seeds ops').nodup
  refine ⟨fun key => ?_, fun e he e' he' hk => ?_, fun hr => ?_⟩
  · simp only [entries, entries', mem_keys_ofHistory, r.perm.mem_iff]
  · have hg := gather_of_mem_ofHistory he
    have hg' := gather_of_mem_ofHistory he'
    rw [← hk] at hg'
    obtain ⟨hplaces, hcomment⟩ := Entry.gather_perm ((r.perm.filter _).map _) hg hg'
    exact ⟨hplaces, not_congr hcomment⟩
  · have hsame : ∀ key, entryOf entries key = entryOf entries' key := by
      intro key
      rw [entryOf_ofHistory, entryOf_ofHistory, hr.filter_eq key]
    refine ⟨fun e he e' he' hk => ?_, perm_of_entryOf_eq hn hn' hsame, fun i hi => ?_⟩
    · have h := entryOf_of_mem hn he
      rw [hsame, hk, entryOf_of_mem hn' he'] at h
      exact (Option.some.inj h).symm
    · have hi' : i < ((seeds.eraseDups.map Entry.plain).map Entry.key).length := by simpa using hi
      have hat := List.getElem?_eq_getElem hi'
      rw [getElem?_eq_entryOf hn, getElem?_eq_entryOf hn',
        getElem?_of_prefix (seedKeys_prefix_ofHistory seeds ops) hat,
        getElem?_of_prefix (seedKeys_prefix_ofHistory seeds ops') hat]
      exact hsame _

theorem rearranged_history_same_messages_overtaken :
    let use (place comment : String) : Operation := .insert {
      kind := .plural, msgid := "m", msgidPlural := some "ms", references := [place]
      comment := some comment }
    let ops := [use "f:1" "one", .insertKey "k" "f:2", use "f:3" "two"]
    let ops' := [.insertKey "k" "f:2", use "f:1" "one", use "f:3" "two"]
    ∃ r : Rearrangement ops ops', r.KeepsOrder ∧
      (ofHistory ["s"] ops).entries.Perm (ofHistory ["s"] ops').entries ∧
      (ofHistory ["s"] ops).entries ≠ (ofHistory ["s"] ops').entries := by
  intro use ops ops'
  let r : Rearrangement ops ops' := {
    move := (Equiv.swap 0 1 : Equiv.Perm (Fin 3))
    get_move := fun i => match i with
      | 0 => rfl
      | 1 => rfl
      | 2 => rfl }
  have hr : r.KeepsOrder := by
    unfold Rearrangement.KeepsOrder
    decide +kernel
  exact ⟨r, hr, ((rearranged_history_same_messages ["s"] ops ops' r).2.2 hr).2.1,
    by decide +kernel⟩

end Catalog

end Phrasebook
