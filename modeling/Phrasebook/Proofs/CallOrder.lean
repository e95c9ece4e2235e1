import Mathlib.Data.List.Basic
import Phrasebook.Proofs.EventOrder

namespace Phrasebook

def Event.call? : Event → Option Address
  | .enter .. => none
  | .recognize address .. => some address

namespace Node

def calls (tree : Node) : List Address := (tree.events []).filterMap Event.call?

theorem mem_calls {tree : Node} {a : Address} :
    a ∈ tree.calls ↔
      ∃ line func args keywords, tree.at? a = some (.call line func args keywords) := by
  rw [calls, List.mem_filterMap]
  constructor
  · rintro ⟨e, he, ha⟩
    cases e with
    | enter => cases ha
    | recognize address line func args =>
      cases ha
      obtain ⟨keywords, h⟩ := recognize_mem_events.mp he
      exact ⟨line, func, args, keywords, h⟩
  · rintro ⟨line, func, args, keywords, h⟩
    exact ⟨.recognize a line func args, recognize_mem_events.mpr ⟨keywords, h⟩, rfl⟩

theorem pairwise_calls (tree : Node) :
    tree.calls.Pairwise fun a b => a.map rank ++ [1] < b.map rank ++ [1] := by
  rw [calls, List.pairwise_filterMap]
  refine (pairwise_events tree []).imp fun {e f} h a ha b hb => ?_
  cases e with
  | enter => cases ha
  | recognize =>
    cases f with
    | enter => cases hb
    | recognize =>
      cases ha
      cases hb
      exact h

theorem nodup_calls (tree : Node) : tree.calls.Nodup := by
  refine (pairwise_calls tree).imp fun {a b} h he => ?_
  subst he
  exact List.lt_irrefl _ h

theorem idxOf_calls_lt {tree : Node} {a b : Address} (ha : a ∈ tree.calls) (hb : b ∈ tree.calls)
    (h : a.map rank ++ [1] < b.map rank ++ [1]) : tree.calls.idxOf a < tree.calls.idxOf b := by
  have hla := List.idxOf_lt_length_of_mem ha
  have hlb := List.idxOf_lt_length_of_mem hb
  obtain hlt | heq | hgt := Nat.lt_trichotomy (tree.calls.idxOf a) (tree.calls.idxOf b)
  · exact hlt
  · have hab : a = b := by
      rw [← List.getElem_idxOf hla, ← List.getElem_idxOf hlb]
      simp only [heq]
    rw [hab] at h
    exact absurd h (List.lt_irrefl _)
  · have hba := List.pairwise_iff_getElem.mp (pairwise_calls tree) _ _ hlb hla hgt
    rw [List.getElem_idxOf, List.getElem_idxOf] at hba
    exact absurd hba (List.lt_asymm h)

def candidate? (filename : String) : Node → Option Entry
  | .call line func args _ => Collector.candidate? filename line func args
  | _ => none

theorem filterMap_events (tree : Node) (filename : String) :
    (tree.events []).filterMap (·.candidate? filename) =
      tree.calls.filterMap fun a => tree.at? a >>= candidate? filename := by
  rw [calls, List.filterMap_filterMap]
  apply List.filterMap_congr
  intro e he
  cases e with
  | enter => rfl
  | recognize address line func args =>
    obtain ⟨keywords, h⟩ := recognize_mem_events.mp he
    simp [Event.candidate?, Event.call?, h, candidate?]

def candidates (tree : Node) (filename : String) : List Entry :=
  (tree.events []).filterMap (·.candidate? filename)

theorem mem_candidates {tree : Node} {filename : String} {e : Entry} :
    e ∈ tree.candidates filename ↔
      ∃ address line func args keywords, tree.at? address = some (.call line func args keywords) ∧
        Collector.candidate? filename line func args = some e := by
  rw [candidates, List.mem_filterMap]
  constructor
  · rintro ⟨event, hevent, he⟩
    cases event with
    | enter => cases he
    | recognize address line func args =>
      obtain ⟨keywords, h⟩ := recognize_mem_events.mp hevent
      exact ⟨address, line, func, args, keywords, h, he⟩
  · rintro ⟨address, line, func, args, keywords, h, he⟩
    exact ⟨.recognize address line func args, recognize_mem_events.mpr ⟨keywords, h⟩, he⟩

theorem idxOf_calls_below {tree : Node} {a b : Address} (ha : a ∈ tree.calls) (hb : b ∈ tree.calls)
    (hab : b <+: a) (hne : a ≠ b) :
    tree.calls.idxOf a < tree.calls.idxOf b ↔ b ++ [0] <+: a := by
  obtain ⟨r, rfl⟩ := hab
  cases r with
  | nil => simp at hne
  | cons i r =>
    have hin : b ++ [0] <+: b ++ i :: r ↔ i = 0 := by
      simp [List.prefix_append_right_inj, eq_comm]
    have hs : (b ++ i :: r).map rank ++ [1] = b.map rank ++ rank i :: (r.map rank ++ [1]) := by
      simp
    rw [hin]
    constructor
    · intro h
      by_contra hi
      have hlt : tree.calls.idxOf b < tree.calls.idxOf (b ++ i :: r) := by
        apply idxOf_calls_lt hb ha
        rw [hs]
        exact word_lt (one_lt_rank (Nat.pos_of_ne_zero hi)) _ [] _
      omega
    · rintro rfl
      apply idxOf_calls_lt ha hb
      rw [hs]
      exact word_lt Nat.zero_lt_one _ _ []

theorem idxOf_calls_beside {tree : Node} {w p q : Address} {i j : Nat} (hij : i < j)
    (ha : w ++ i :: p ∈ tree.calls) (hb : w ++ j :: q ∈ tree.calls) :
    tree.calls.idxOf (w ++ i :: p) < tree.calls.idxOf (w ++ j :: q) := by
  apply idxOf_calls_lt ha hb
  simp only [List.map_append, List.append_assoc]
  exact word_lt (rank_lt hij) _ _ _

end Node

namespace Collector

theorem events_clean {tree : Node} (hlines : ∀ address line func args keywords,
      tree.at? address = some (.call line func args keywords) → line.isSome) :
    ∀ e ∈ tree.events [], e.offends none = false := by
  intro e he
  cases e with
  | enter => rfl
  | recognize address line func args =>
    obtain ⟨keywords, h⟩ := Node.recognize_mem_events.mp he
    obtain ⟨l, rfl⟩ := Option.isSome_iff_exists.mp (hlines address line func args keywords h)
    rfl

/-- Without a limit, and when every call has its line, a visit stores what recognition gives for
the calls of the tree, each of them once: a call after the calls in its callee, before those in its
arguments and keywords, and all others from left to right. -/
theorem visit_stores_every_call_once (tree : Node) (filename : String) (seeds : List String)
    (hlines : ∀ address line func args keywords,
      tree.at? address = some (.call line func args keywords) → line.isSome) :
    ∃ calls : List Address,
      calls.Nodup ∧
      (∀ a, a ∈ calls ↔
        ∃ line func args keywords, tree.at? a = some (.call line func args keywords)) ∧
      (∀ a ∈ calls, ∀ b ∈ calls, b <+: a → a ≠ b →
        (calls.idxOf a < calls.idxOf b ↔ b ++ [0] <+: a)) ∧
      (∀ w i j p q, i < j → w ++ i :: p ∈ calls → w ++ j :: q ∈ calls →
        calls.idxOf (w ++ i :: p) < calls.idxOf (w ++ j :: q)) ∧
      visit tree (start filename seeds none) = .ok () { start filename seeds none with
        catalog := (calls.filterMap fun a => tree.at? a >>= Node.candidate? filename).foldl
          Catalog.store (Catalog.ofSeeds seeds) } := by
  refine ⟨tree.calls, tree.nodup_calls, fun a => Node.mem_calls,
    fun a ha b hb => Node.idxOf_calls_below ha hb, fun w i j p q => Node.idxOf_calls_beside, ?_⟩
  rw [visit_eq_follow tree [] _ rfl, follow_eq_ok_iff]
  refine ⟨events_clean hlines, ?_⟩
  rw [storing, ← Node.filterMap_events]
  rfl

def nestedCalls : Node :=
  let marker (text : String) : Node :=
    .call (some 1) (.name (some 1) "_") [.constant (some 1) (.text text)] []
  .call (some 2) (.attribute (some 1) (marker "receiver") "_")
    [.constant (some 2) (.text "outer"), marker "argument"] [.other none [marker "keyword"]]

theorem visit_stores_every_call_once_nested :
    (∀ address line func args keywords,
      nestedCalls.at? address = some (.call line func args keywords) → line.isSome) ∧
    ∃ calls : List Address, calls.Nodup ∧ [0, 0] ∈ calls ∧ calls.idxOf [0, 0] < calls.idxOf [] ∧
      visit nestedCalls (start "f" ["outer"] none) = .ok () { start "f" ["outer"] none with
        catalog := (calls.filterMap fun a => nestedCalls.at? a >>= Node.candidate? "f").foldl
          Catalog.store (Catalog.ofSeeds ["outer"]) } := by
  have hlines : ∀ address line func args keywords,
      nestedCalls.at? address = some (.call line func args keywords) → line.isSome := by
    intro address line func args keywords h
    have hm := Node.recognize_mem_events.mpr ⟨keywords, h⟩
    simp only [nestedCalls, Node.events, Node.eventsFrom, List.mem_cons, List.mem_append,
      reduceCtorEq, Event.recognize.injEq, List.not_mem_nil, false_or, or_false] at hm
    obtain ⟨-, rfl, -⟩ | ⟨-, rfl, -⟩ | ⟨-, rfl, -⟩ | ⟨-, rfl, -⟩ := hm <;> rfl
  obtain ⟨calls, hnodup, hmem, hbelow, -, hvisit⟩ :=
    visit_stores_every_call_once nestedCalls "f" ["outer"] hlines
  have hinner : [0, 0] ∈ calls := (hmem _).mpr ⟨_, _, _, _, rfl⟩
  have houter : [] ∈ calls := (hmem _).mpr ⟨_, _, _, _, rfl⟩
  refine ⟨hlines, calls, hnodup, hinner, ?_, hvisit⟩
  exact (hbelow _ hinner _ houter (List.nil_prefix) (by simp)).mpr (by decide)

end Collector

end Phrasebook
