import Phrasebook.Proofs.Merging
import Phrasebook.Proofs.Recognition
import Phrasebook.Proofs.Traversal

namespace Phrasebook

/-- The moments at which a visit can be stopped or change the catalog. -/
inductive Event where
  | enter (address : Address) (line : Option Int)
  | recognize (address : Address) (line : Option Int) (func : Node) (args : List Node)

namespace Node

mutual

/-- The events of a visit to a tree that stands at the given address. A call is recognised between
its callee and its arguments. Of neighbouring children, the first is child number `i`. -/
def events (address : Address) : Node → List Event
  | .blank => []
  | .plus line | .constant line _ | .name line _ => [.enter address line]
  | .attribute line value _ => .enter address line :: events (address ++ [0]) value
  | .joined line ns | .sequence line ns | .other line ns =>
    .enter address line :: eventsFrom address 0 ns
  | .binary line left op right =>
    .enter address line :: (events (address ++ [0]) left ++
      (events (address ++ [1]) op ++ events (address ++ [2]) right))
  | .call line func args keywords =>
    .enter address line :: (events (address ++ [0]) func ++ .recognize address line func args ::
      (eventsFrom address 1 args ++ eventsFrom address (1 + args.length) keywords))

def eventsFrom (address : Address) (i : Nat) : List Node → List Event
  | [] => []
  | n :: ns => events (address ++ [i]) n ++ eventsFrom address (i + 1) ns

end

theorem events_plain (address : Address) (n : Node) (h : n.IsPlain) :
    n.events address = .enter address n.line :: eventsFrom address 0 n.children := by
  cases n with
  | blank | call => exact h.elim
  | _ => simp [events, eventsFrom, children, line]

end Node

namespace Event

/-- Entering a node on a level above the limit stops a visit, and so does a message without a
line. -/
def offends (maxDepth : Option Int) : Event → Bool
  | .enter address _ => maxDepth.any fun limit => limit < address.level
  | .recognize _ line func args => Collector.unplaced line func args

theorem offends_enter_iff {maxDepth : Option Int} {address : Address} {line : Option Int} :
    (enter address line).offends maxDepth = true ↔
      ∃ limit, maxDepth = some limit ∧ limit < address.level := by
  simp [offends, Option.any_eq_true]

theorem offends_recognize_iff {maxDepth line : Option Int} {address : Address} {func : Node}
    {args : List Node} :
    (recognize address line func args).offends maxDepth = true ↔
      line = none ∧ func.marks args = true := by
  simp [offends, Collector.unplaced]

def fault (filename : String) (maxDepth : Option Int) : Event → Fault
  | .enter _ line => .tooDeep filename (line.getD 0) (maxDepth.getD 0)
  | .recognize .. => .callWithoutLine

def candidate? (filename : String) : Event → Option Entry
  | .enter .. => none
  | .recognize _ line func args => Collector.candidate? filename line func args

end Event

namespace Collector

section Results

variable {σ : Type}

def ending (s : σ) : Option Fault → EStateM.Result Fault σ Unit
  | none => .ok () s
  | some fault => .error fault s

def fault? : EStateM.Result Fault σ Unit → Option Fault
  | .ok () _ => none
  | .error fault _ => some fault

def final : EStateM.Result Fault σ Unit → σ
  | .ok () s => s
  | .error _ s => s

@[simp] theorem fault?_ending (s : σ) (fault : Option Fault) : fault? (ending s fault) = fault := by
  cases fault <;> rfl

@[simp] theorem final_ending (s : σ) (fault : Option Fault) : final (ending s fault) = s := by
  cases fault <;> rfl

end Results

variable {σ : Type}

def withCatalog {τ : Type} (c : Collector σ) (catalog : τ) : Collector τ :=
  { filename := c.filename, maxDepth := c.maxDepth, catalog, depth := c.depth }

@[simp] theorem withCatalog_self (c : Collector σ) : c.withCatalog c.catalog = c := rfl

@[simp] theorem leave_enter (c : Collector σ) : c.enter.leave = c := by
  simp [enter, leave]

variable [EntryStore σ]

def storing (c : Collector σ) (es : List Event) : Collector σ :=
  { c with catalog := (es.filterMap (·.candidate? c.filename)).foldl EntryStore.store c.catalog }

@[simp] theorem storing_maxDepth (c : Collector σ) (es : List Event) :
    (c.storing es).maxDepth = c.maxDepth := rfl

@[simp] theorem storing_depth (c : Collector σ) (es : List Event) :
    (c.storing es).depth = c.depth := rfl

theorem storing_catalog (c : Collector) (es : List Event) : (c.storing es).catalog =
    (es.filterMap (·.candidate? c.filename)).foldl Catalog.store c.catalog := rfl

theorem storing_append (c : Collector σ) (es fs : List Event) :
    c.storing (es ++ fs) = (c.storing es).storing fs := by
  simp [storing, List.filterMap_append, List.foldl_append]

def follow : List Event → Visit σ Unit
  | [] => pure ()
  | e :: es => fun c =>
    if e.offends c.maxDepth then .error (e.fault c.filename c.maxDepth) c
    else follow es (c.storing [e])

theorem follow_append (es fs : List Event) :
    (follow (es ++ fs) : Visit σ Unit) = (do follow es; follow fs) := by
  funext c
  induction es generalizing c with
  | nil => rfl
  | cons e es ih =>
    by_cases h : e.offends c.maxDepth
    · simp [follow, h, bind, EStateM.bind]
    · simpa [follow, h, bind, EStateM.bind] using ih (c.storing [e])

theorem follow_eq_ok_iff (es : List Event) (c s : Collector σ) :
    follow es c = .ok () s ↔ (∀ e ∈ es, e.offends c.maxDepth = false) ∧ s = c.storing es := by
  induction es generalizing c with
  | nil =>
    constructor
    · intro h
      cases h
      exact ⟨by simp, rfl⟩
    · rintro ⟨-, rfl⟩
      rfl
  | cons e es ih =>
    have hs : c.storing (e :: es) = (c.storing [e]).storing es := storing_append c [e] es
    cases h : e.offends c.maxDepth with
    | true => simp [follow, h]
    | false =>
      simp only [follow, h, Bool.false_eq_true, ↓reduceIte, List.forall_mem_cons, true_and, hs]
      exact ih (c.storing [e])

theorem follow_eq_error_iff (es : List Event) (c s : Collector σ) (f : Fault) :
    follow es c = .error f s ↔
      ∃ before e rest, es = before ++ e :: rest ∧ (∀ x ∈ before, x.offends c.maxDepth = false) ∧
        e.offends c.maxDepth = true ∧ f = e.fault c.filename c.maxDepth ∧ s = c.storing before := by
  induction es generalizing c with
  | nil => simp [follow, pure, EStateM.pure]
  | cons e es ih =>
    cases h : e.offends c.maxDepth with
    | true =>
      simp only [follow, h, ↓reduceIte]
      constructor
      · intro he
        cases he
        exact ⟨[], e, es, rfl, by simp, h, rfl, rfl⟩
      · rintro ⟨before, x, rest, heq, hb, hx, rfl, rfl⟩
        cases before with
        | nil => cases heq; rfl
        | cons b bs =>
          cases heq
          have hc := hb e (by simp)
          rw [h] at hc
          cases hc
    | false =>
      simp only [follow, h, Bool.false_eq_true, ↓reduceIte]
      rw [ih]
      constructor
      · rintro ⟨before, x, rest, rfl, hb, hx, rfl, rfl⟩
        exact ⟨e :: before, x, rest, rfl, by simpa [h] using hb, hx, rfl,
          (storing_append c [e] before).symm⟩
      · rintro ⟨before, x, rest, heq, hb, hx, rfl, rfl⟩
        cases before with
        | nil =>
          cases heq
          rw [h] at hx
          cases hx
        | cons b bs =>
          cases heq
          exact ⟨bs, x, rest, rfl, fun y hy => hb y (by simp [hy]), hx, rfl,
            storing_append c [e] bs⟩

/-- However a run ends, it has stored the entries of its first events and changed nothing else. How
it ends, and after which events, does not depend on what they are stored in. -/
theorem follow_stores (es : List Event) (c : Collector σ) :
    ∃ stored fault, stored <+: es ∧ ∀ (τ : Type) [EntryStore τ] (catalog : τ),
      follow es (c.withCatalog catalog) =
        ending ((c.withCatalog catalog).storing stored) fault := by
  cases h : follow es c with
  | ok u s =>
    obtain ⟨hes, -⟩ := (follow_eq_ok_iff es c s).mp h
    refine ⟨es, none, List.prefix_rfl, fun τ _ catalog => ?_⟩
    exact (follow_eq_ok_iff es _ _).mpr ⟨hes, rfl⟩
  | error f s =>
    obtain ⟨before, e, rest, rfl, hb, he, hf, -⟩ := (follow_eq_error_iff es c s f).mp h
    refine ⟨before, some f, List.prefix_append _ _, fun τ _ catalog => ?_⟩
    exact (follow_eq_error_iff _ _ _ f).mpr ⟨before, e, rest, rfl, hb, he, hf, rfl⟩

theorem follow_eq_ending (es : List Event) (c : Collector σ) :
    ∃ stored fault, stored <+: es ∧ follow es c = ending (c.storing stored) fault := by
  obtain ⟨stored, fault, hp, hrun⟩ := follow_stores es c
  exact ⟨stored, fault, hp, hrun σ c.catalog⟩

theorem follow_recognize (address : Address) (line : Option Int) (func : Node) (args : List Node) :
    (follow [.recognize address line func args] : Visit σ Unit) = noteCall line func args := by
  funext c
  simp only [follow, Event.offends, noteCall, entryFor_eq]
  by_cases h : unplaced line func args = true
  · simp [h, Event.fault]
  · cases hc : candidate? c.filename line func args with
    | none => simp [h, storing, Event.candidate?, hc, pure, EStateM.pure]
    | some e => simp [h, storing, Event.candidate?, hc, pure, EStateM.pure]

theorem follow_enter (es : List Event) (c : Collector σ) :
    follow es c.enter =
      match follow es c with
      | .ok u s => .ok u s.enter
      | .error f s => .error f s.enter := by
  induction es generalizing c with
  | nil => rfl
  | cons e es ih =>
    have hm : c.enter.maxDepth = c.maxDepth := rfl
    cases h : e.offends c.maxDepth with
    | true =>
      simp only [follow, hm, h, ↓reduceIte]
      rfl
    | false =>
      simp only [follow, hm, h, Bool.false_eq_true, ↓reduceIte]
      exact ih (c.storing [e])

omit [EntryStore σ] in
theorem exceeded_enter {c : Collector σ} {address : Address} (hd : c.depth = address.length)
    (line : Option Int) :
    c.enter.exceeded =
      if (Event.enter address line).offends c.maxDepth then c.maxDepth else none := by
  have hlevel : (c.enter.depth : Int) = address.level := by
    simp [enter, hd, Address.level]
  have hm : c.enter.maxDepth = c.maxDepth := rfl
  rw [exceeded, hm, hlevel]
  cases c.maxDepth with
  | none => rfl
  | some limit =>
    by_cases hl : limit < address.level <;> simp [hl, Option.filter, Event.offends]

theorem deeper_eq_follow {line : Option Int} {body : Visit σ Unit} {es : List Event}
    {c : Collector σ} {address : Address} (hd : c.depth = address.length)
    (h : body c.enter = follow es c.enter) :
    deeper line body c = follow (.enter address line :: es) c := by
  have hs : c.storing [.enter address line] = c := rfl
  simp only [deeper, exceeded_enter hd line, h, follow, hs]
  cases ho : (Event.enter address line).offends c.maxDepth with
  | true =>
    obtain ⟨limit, hm, -⟩ := Event.offends_enter_iff.mp ho
    simp [Event.fault, hm]
  | false =>
    rw [follow_enter]
    cases follow es c <;> simp

theorem seq_eq_follow {x y : Visit σ Unit} {es fs : List Event} {c : Collector σ}
    (hx : x c = follow es c) (hy : ∀ s, s.depth = c.depth → y s = follow fs s) :
    (do x; y) c = follow (es ++ fs) c := by
  rw [follow_append]
  simp only [bind, EStateM.bind, hx]
  cases h : follow es c with
  | error f s => rfl
  | ok u s =>
    have hs := ((follow_eq_ok_iff es c s).mp h).2
    exact hy s (by simp [hs])

theorem follows_events : Node.Traversal
    (fun n => ∀ (address : Address) (c : Collector σ), c.depth = address.length →
      visit n c = follow (n.events address) c)
    (fun ns => ∀ (address : Address) (i : Nat) (c : Collector σ), c.depth = address.length + 1 →
      visitAll ns c = follow (Node.eventsFrom address i ns) c) where
  blank := fun _ _ _ => rfl
  plain := by
    intro n hn ih address c hc
    rw [visit_plain n hn, Node.events_plain _ n hn]
    exact deeper_eq_follow hc (ih address 0 c.enter (by simp [enter, hc]))
  call := by
    intro line func args keywords hf ha hk address c hc
    have hd : c.enter.depth = address.length + 1 := by simp [enter, hc]
    rw [visit, Node.events]
    apply deeper_eq_follow hc
    apply seq_eq_follow (hf (address ++ [0]) c.enter (by simp [hd]))
    intro s hs
    change _ = follow ([.recognize address line func args] ++ _) s
    apply seq_eq_follow (congrFun (follow_recognize address line func args).symm s)
    intro s' hs'
    have hd' : s'.depth = address.length + 1 := hs'.trans (hs.trans hd)
    apply seq_eq_follow (ha address 1 s' hd')
    intro s'' hs''
    exact hk address (1 + args.length) s'' (hs''.trans hd')
  nil := fun _ _ _ _ => rfl
  cons := by
    intro n ns hn hns address i c hc
    rw [visitAll, Node.eventsFrom]
    apply seq_eq_follow (hn (address ++ [i]) c (by simp [hc]))
    intro s hs
    exact hns address (i + 1) s (hs.trans hc)

theorem visit_eq_follow (tree : Node) (address : Address) (c : Collector σ)
    (hc : c.depth = address.length) : visit tree c = follow (tree.events address) c :=
  follows_events.node tree address c hc

end Collector

end Phrasebook
