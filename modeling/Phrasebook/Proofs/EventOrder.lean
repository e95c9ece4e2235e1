import Phrasebook.Proofs.EventStream

namespace Phrasebook

/-- The place of a child among its siblings and the node itself. The node holds rank one: its first
child, the callee of a call, goes before it and all others go after it. -/
def rank (i : Nat) : Nat := if i = 0 then 0 else i + 1

theorem rank_lt {i j : Nat} (h : i < j) : rank i < rank j := by
  unfold rank
  split <;> split <;> omega

theorem one_lt_rank {i : Nat} (h : 0 < i) : 1 < rank i := by
  unfold rank
  split <;> omega

theorem word_lt {i j : Nat} (h : i < j) (w p q : List Nat) : w ++ i :: p < w ++ j :: q :=
  List.append_left_lt (List.cons_lt_cons_iff.mpr (.inl h))

theorem word_lt_longer (w : List Nat) (i : Nat) (p : List Nat) : w < w ++ i :: p := by
  have h : w ++ [] < w ++ i :: p := List.append_left_lt (List.nil_lt_cons i p)
  rwa [List.append_nil] at h

namespace Event

def address : Event → Address
  | .enter address _ => address
  | .recognize address .. => address

/-- The time of an event. Times are compared as words. -/
def stamp : Event → List Nat
  | .enter address _ => address.map rank
  | .recognize address .. => address.map rank ++ [1]

theorem stamp_below {e : Event} {a : Address} {i : Nat} (h : a ++ [i] <+: e.address) :
    ∃ r, e.stamp = a.map rank ++ rank i :: r := by
  obtain ⟨b, hb⟩ := h
  cases e with
  | enter address line =>
    cases hb
    exact ⟨b.map rank, by simp [stamp]⟩
  | recognize address line func args =>
    cases hb
    exact ⟨b.map rank ++ [1], by simp [stamp]⟩

theorem lt_of_rank_lt {e f : Event} {a : Address} {i j : Nat} (h : i < j)
    (he : a ++ [i] <+: e.address) (hf : a ++ [j] <+: f.address) : e.stamp < f.stamp := by
  obtain ⟨r, hr⟩ := stamp_below he
  obtain ⟨s, hs⟩ := stamp_below hf
  rw [hr, hs]
  exact word_lt (rank_lt h) _ r s

theorem enter_lt {e : Event} {a : Address} {i : Nat} (line : Option Int)
    (h : a ++ [i] <+: e.address) : (enter a line).stamp < e.stamp := by
  obtain ⟨r, hr⟩ := stamp_below h
  rw [hr]
  exact word_lt_longer _ (rank i) r

theorem callee_lt {e : Event} {a : Address} (line : Option Int) (func : Node) (args : List Node)
    (h : a ++ [0] <+: e.address) : e.stamp < (recognize a line func args).stamp := by
  obtain ⟨r, hr⟩ := stamp_below h
  rw [hr]
  exact word_lt Nat.zero_lt_one _ r []

theorem lt_argument {e : Event} {a : Address} {i : Nat} (line : Option Int) (func : Node)
    (args : List Node) (hi : 0 < i) (h : a ++ [i] <+: e.address) :
    (recognize a line func args).stamp < e.stamp := by
  obtain ⟨r, hr⟩ := stamp_below h
  rw [hr]
  exact word_lt (one_lt_rank hi) _ [] r

end Event

namespace Node

def ownEvents (address : Address) : Node → List Event
  | .blank => []
  | .call line func args _ => [.enter address line, .recognize address line func args]
  | n => [.enter address n.line]

theorem address_of_mem_ownEvents {n : Node} {a : Address} {e : Event} (h : e ∈ n.ownEvents a) :
    e.address = a := by
  cases n with
  | blank => simp [ownEvents] at h
  | call line func args keywords =>
    simp only [ownEvents, List.mem_cons, List.not_mem_nil, or_false] at h
    obtain rfl | rfl := h <;> rfl
  | _ =>
    obtain rfl := List.mem_singleton.mp h
    rfl

theorem mem_eventsFrom {ns : List Node} {a : Address} {i : Nat} {e : Event} :
    e ∈ eventsFrom a i ns ↔
      ∃ (j : Nat) (m : Node), ns[j]? = some m ∧ e ∈ m.events (a ++ [i + j]) := by
  induction ns generalizing i with
  | nil => simp [eventsFrom]
  | cons n ns ih =>
    rw [eventsFrom, List.mem_append, ih]
    constructor
    · rintro (h | ⟨j, m, hm, h⟩)
      · exact ⟨0, n, rfl, h⟩
      · exact ⟨j + 1, m, hm, by rwa [Nat.add_right_comm] at h⟩
    · rintro ⟨j, m, hm, h⟩
      cases j with
      | zero => cases hm; exact .inl h
      | succ j => exact .inr ⟨j, m, hm, by rwa [Nat.add_right_comm]⟩

theorem eventsFrom_append (ms ns : List Node) (a : Address) (i : Nat) :
    eventsFrom a i (ms ++ ns) = eventsFrom a i ms ++ eventsFrom a (i + ms.length) ns := by
  induction ms generalizing i with
  | nil => simp [eventsFrom]
  | cons m ms ih =>
    have hi : i + 1 + ms.length = i + (ms.length + 1) := by omega
    simp only [List.cons_append, eventsFrom, ih, List.append_assoc, List.length_cons, hi]

theorem events_call (line : Option Int) (func : Node) (args keywords : List Node) (a : Address) :
    (call line func args keywords).events a =
      .enter a line :: (func.events (a ++ [0]) ++
        .recognize a line func args :: eventsFrom a 1 (args ++ keywords)) := by
  rw [events, eventsFrom_append]

theorem mem_events_iff {n : Node} {a : Address} {e : Event} :
    e ∈ n.events a ↔ e ∈ n.ownEvents a ∨ e ∈ eventsFrom a 0 n.children := by
  cases n with
  | blank => simp [events, ownEvents, children, eventsFrom]
  | call line func args keywords =>
    simp only [events_call, ownEvents, children, eventsFrom, List.mem_cons, List.mem_append,
      List.not_mem_nil, or_false, Nat.zero_add, or_assoc, or_left_comm]
  | _ =>
    rw [events_plain]
    · simp [ownEvents]
    · trivial

theorem mem_events {n : Node} {a : Address} {e : Event} :
    e ∈ n.events a ↔ ∃ (b : Address) (m : Node), n.at? b = some m ∧ e ∈ m.ownEvents (a ++ b) := by
  induction n using induction_on_children generalizing a with
  | step n ih =>
    rw [mem_events_iff, mem_eventsFrom]
    constructor
    · rintro (h | ⟨j, m, hm, h⟩)
      · exact ⟨[], n, rfl, by simpa using h⟩
      · obtain ⟨b, k, hk, h⟩ := (ih m (List.mem_of_getElem? hm)).mp h
        exact ⟨j :: b, k, by simp [at?, hm, hk], by simpa using h⟩
    · rintro ⟨b, k, hk, h⟩
      cases b with
      | nil =>
        cases hk
        exact .inl (by simpa using h)
      | cons j b =>
        obtain ⟨m, hm, hk⟩ := Option.bind_eq_some_iff.mp hk
        refine .inr ⟨j, m, hm, (ih m (List.mem_of_getElem? hm)).mpr ⟨b, k, hk, ?_⟩⟩
        simpa using h

theorem prefix_of_mem_events {n : Node} {a : Address} {e : Event} (h : e ∈ n.events a) :
    a <+: e.address := by
  obtain ⟨b, m, -, hm⟩ := mem_events.mp h
  rw [address_of_mem_ownEvents hm]
  exact List.prefix_append a b

theorem prefix_of_mem_eventsFrom {ns : List Node} {a : Address} {i : Nat} {e : Event}
    (h : e ∈ eventsFrom a i ns) : ∃ j, i ≤ j ∧ j < i + ns.length ∧ a ++ [j] <+: e.address := by
  obtain ⟨j, m, hm, he⟩ := mem_eventsFrom.mp h
  obtain ⟨hj, -⟩ := List.getElem?_eq_some_iff.mp hm
  exact ⟨i + j, by omega, by omega, prefix_of_mem_events he⟩

theorem pairwise_events (tree : Node) (a : Address) :
    (tree.events a).Pairwise fun e f => e.stamp < f.stamp := by
  have t : Traversal
      (fun n => ∀ a : Address, (n.events a).Pairwise fun e f => e.stamp < f.stamp)
      (fun ns => ∀ (a : Address) (i : Nat),
        (eventsFrom a i ns).Pairwise fun e f => e.stamp < f.stamp) := {
    blank := fun a => .nil
    plain := by
      intro n hn ih a
      rw [events_plain a n hn]
      refine .cons (fun e he => ?_) (ih a 0)
      obtain ⟨j, -, -, hj⟩ := prefix_of_mem_eventsFrom he
      exact Event.enter_lt n.line hj
    call := by
      intro line func args keywords hf ha hk a
      have hrest : (eventsFrom a 1 (args ++ keywords)).Pairwise fun e f => e.stamp < f.stamp := by
        rw [eventsFrom_append, List.pairwise_append]
        refine ⟨ha a 1, hk a _, fun e he f hf => ?_⟩
        obtain ⟨i, -, hi, he⟩ := prefix_of_mem_eventsFrom he
        obtain ⟨j, hj, -, hf⟩ := prefix_of_mem_eventsFrom hf
        exact Event.lt_of_rank_lt (by omega) he hf
      rw [events_call, List.pairwise_cons, List.pairwise_append, List.pairwise_cons]
      refine ⟨fun e he => ?_, hf _, ⟨fun e he => ?_, hrest⟩, fun e he f hf => ?_⟩
      · obtain he | he := List.mem_append.mp he
        · exact Event.enter_lt line (prefix_of_mem_events he)
        · obtain rfl | he := List.mem_cons.mp he
          · exact word_lt_longer _ 1 []
          · obtain ⟨j, -, -, hj⟩ := prefix_of_mem_eventsFrom he
            exact Event.enter_lt line hj
      · obtain ⟨j, hj, -, he⟩ := prefix_of_mem_eventsFrom he
        exact Event.lt_argument line func args hj he
      · obtain rfl | hf := List.mem_cons.mp hf
        · exact Event.callee_lt line func args (prefix_of_mem_events he)
        · obtain ⟨j, hj, -, hf⟩ := prefix_of_mem_eventsFrom hf
          exact Event.lt_of_rank_lt hj (prefix_of_mem_events he) hf
    nil := fun a i => .nil
    cons := by
      intro n ns hn hns a i
      rw [eventsFrom, List.pairwise_append]
      refine ⟨hn _, hns a (i + 1), fun e he f hf => ?_⟩
      obtain ⟨j, hj, -, hf⟩ := prefix_of_mem_eventsFrom hf
      exact Event.lt_of_rank_lt hj (prefix_of_mem_events he) hf }
  exact t.node tree a

theorem enter_mem_events {tree : Node} {a : Address} {line : Option Int} :
    .enter a line ∈ tree.events [] ↔
      ∃ n, tree.at? a = some n ∧ n ≠ .blank ∧ n.line = line := by
  rw [mem_events]
  constructor
  · rintro ⟨b, m, hm, h⟩
    cases m with
    | blank => simp [ownEvents] at h
    | call =>
      simp only [ownEvents, List.nil_append, List.mem_cons, Event.enter.injEq, reduceCtorEq,
        List.not_mem_nil, or_self, or_false] at h
      obtain ⟨rfl, rfl⟩ := h
      exact ⟨_, hm, nofun, rfl⟩
    | _ =>
      cases List.mem_singleton.mp h
      exact ⟨_, hm, nofun, rfl⟩
  · rintro ⟨n, hn, hb, rfl⟩
    refine ⟨a, n, hn, ?_⟩
    cases n with
    | blank => exact absurd rfl hb
    | _ => exact List.mem_cons_self

theorem recognize_mem_events {tree : Node} {a : Address} {line : Option Int} {func : Node}
    {args : List Node} :
    .recognize a line func args ∈ tree.events [] ↔
      ∃ keywords, tree.at? a = some (.call line func args keywords) := by
  rw [mem_events]
  constructor
  · rintro ⟨b, m, hm, h⟩
    cases m with
    | blank => simp [ownEvents] at h
    | call line func args keywords =>
      simp only [ownEvents, List.nil_append, List.mem_cons, reduceCtorEq, false_or,
        List.not_mem_nil, or_false] at h
      cases h
      exact ⟨keywords, hm⟩
    | _ => simp [ownEvents] at h
  · rintro ⟨keywords, h⟩
    exact ⟨a, _, h, by simp [ownEvents]⟩

theorem nodup_events (tree : Node) (a : Address) : (tree.events a).Nodup := by
  refine (pairwise_events tree a).imp fun {e f} h he => ?_
  subst he
  exact List.lt_irrefl _ h

/-- When a call is recognised, nothing of its arguments has been visited and its callee is done. -/
theorem recognize_between {tree : Node} {a : Address} {line : Option Int} {func : Node}
    {args : List Node} {before rest : List Event}
    (h : tree.events [] = before ++ .recognize a line func args :: rest) :
    (∀ e ∈ before, ∀ i, 0 < i → ¬ a ++ [i] <+: e.address) ∧
      ∀ e ∈ rest, ¬ a ++ [0] <+: e.address := by
  have hp := pairwise_events tree []
  rw [h, List.pairwise_append, List.pairwise_cons] at hp
  obtain ⟨-, ⟨hrest, -⟩, hbefore⟩ := hp
  constructor
  · intro e he i hi ha
    exact List.lt_asymm (hbefore e he _ List.mem_cons_self) (Event.lt_argument line func args hi ha)
  · intro e he ha
    exact List.lt_asymm (hrest e he) (Event.callee_lt line func args ha)

end Node

end Phrasebook
