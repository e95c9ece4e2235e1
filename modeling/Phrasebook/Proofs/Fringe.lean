import Phrasebook.Proofs.Recognition
import Phrasebook.Proofs.Traversal

namespace Phrasebook.Node

def literal? : Node → Option String
  | .constant _ (.text s) => some s
  | _ => none

theorem literal?_eq_some_iff {n : Node} {s : String} :
    n.literal? = some s ↔ ∃ line, n = .constant line (.text s) := by
  constructor
  · intro h
    cases n with
    | constant line value =>
      cases value with
      | text t =>
        cases h
        exact ⟨line, rfl⟩
      | other => cases h
    | _ => cases h
  · rintro ⟨line, rfl⟩
    rfl

mutual

/-- What is left of a node when sums and templates are taken apart, from left to right. -/
def fringe : Node → List Node
  | .joined _ values => fringes values
  | .binary _ left (.plus _) right => fringe left ++ fringe right
  | n => [n]

def fringes : List Node → List Node
  | [] => []
  | n :: ns => fringe n ++ fringes ns

end

theorem fringe_binary (line : Option Int) (left op right : Node) :
    (Node.binary line left op right).fringe =
      if op.isPlus then left.fringe ++ right.fringe else [.binary line left op right] := by
  cases op <;> simp [fringe, isPlus]

theorem fringes_append (ms ns : List Node) : fringes (ms ++ ns) = fringes ms ++ fringes ns := by
  induction ms with
  | nil => rfl
  | cons m ms ih => rw [List.cons_append, fringes, ih, fringes, List.append_assoc]

def spelled? (leaves : List Node) : Option String :=
  (leaves.mapM literal?).map String.join

theorem spelled?_append (ms ns : List Node) :
    spelled? (ms ++ ns) = do
      let s ← spelled? ms
      let t ← spelled? ns
      return s ++ t := by
  unfold spelled?
  rw [List.mapM_append]
  cases ms.mapM literal? <;> cases ns.mapM literal? <;> simp [String.join_append]

theorem spelled?_singleton (n : Node) : spelled? [n] = n.literal? := by
  unfold spelled?
  cases h : n.literal? <;> simp [h]

theorem isSome_spelled?_iff {leaves : List Node} :
    (spelled? leaves).isSome ↔ ∀ leaf ∈ leaves, leaf.literal?.isSome := by
  induction leaves with
  | nil => simp [spelled?]
  | cons leaf leaves ih =>
    rw [List.forall_mem_cons, ← ih, ← List.singleton_append, spelled?_append, spelled?_singleton]
    cases leaf.literal? <;> cases spelled? leaves <;> simp

theorem spelled?_eq_join {leaves : List Node} {texts : List String}
    (h : leaves.map literal? = texts.map some) : spelled? leaves = some (String.join texts) := by
  induction leaves generalizing texts with
  | nil =>
    have htexts : texts = [] := by simpa using h.symm
    rw [htexts]
    rfl
  | cons leaf leaves ih =>
    cases texts with
    | nil => cases h
    | cons t texts =>
      rw [List.map_cons, List.map_cons, List.cons.injEq] at h
      rw [← List.singleton_append, spelled?_append, spelled?_singleton, h.1, ih h.2,
        String.join_cons]
      rfl

theorem spelled?_congr {ms ns : List Node} (h : ms.map literal? = ns.map literal?) :
    spelled? ms = spelled? ns := by
  have hid (leaves : List Node) : leaves.mapM literal? = (leaves.map literal?).mapM id := by
    rw [List.mapM_map]
    rfl
  rw [spelled?, spelled?, hid, hid, h]

theorem texts?_eq_spelled? {ns : List Node} (h : ∀ n ∈ ns, n.text? = spelled? n.fringe) :
    texts? ns = spelled? (fringes ns) := by
  induction ns with
  | nil => rfl
  | cons n ns ih =>
    rw [List.forall_mem_cons] at h
    rw [texts?, fringes, spelled?_append, h.1, ih h.2]

theorem text?_eq_spelled? (n : Node) : n.text? = spelled? n.fringe := by
  induction n using induction_on_children with
  | step n ih =>
    cases n with
    | joined line values =>
      rw [text?, fringe]
      exact texts?_eq_spelled? ih
    | binary line left op right =>
      simp only [children, List.forall_mem_cons] at ih
      obtain ⟨hl, -, hr, -⟩ := ih
      rw [text?_binary, fringe_binary]
      split
      · rw [hl, hr, spelled?_append]
      · rw [spelled?_singleton]
        rfl
    | constant line value => cases value <;> rfl
    | _ => rfl

/-- How a sum is grouped makes no difference. -/
theorem text?_regroup (line line' op op' : Option Int) (a b c : Node) :
    (Node.binary line (.binary line' a (.plus op') b) (.plus op) c).text? =
      (Node.binary line a (.plus op) (.binary line' b (.plus op') c)).text? := by
  simp only [text?_eq_spelled?, fringe, List.append_assoc]

/-- A template within a template may as well be spread out there. -/
theorem text?_unnest (line line' : Option Int) (before values after : List Node) :
    (Node.joined line (before ++ .joined line' values :: after)).text? =
      (Node.joined line (before ++ values ++ after)).text? := by
  simp only [text?_eq_spelled?, fringe, fringes_append, fringes, List.append_assoc]

/-- A node stands for a text exactly when its fringe is made of literals. The text is then theirs in
one, from left to right; how the literals are put together makes no difference, and anything else in
the fringe leaves the node without a text. -/
theorem text?_determined_by_fringe (n : Node) :
    ((∃ s, n.text? = some s) ↔ ∀ leaf ∈ n.fringe, ∃ line t, leaf = .constant line (.text t)) ∧
    (∀ texts, n.fringe.map literal? = texts.map some → n.text? = some (String.join texts)) ∧
    (∀ leaf ∈ n.fringe, (∀ line t, leaf ≠ .constant line (.text t)) → n.text? = none) ∧
    (∀ m : Node, m.fringe.map literal? = n.fringe.map literal? → m.text? = n.text?) ∧
    (∀ (line line' op op' : Option Int) (a b c : Node),
      (Node.binary line (.binary line' a (.plus op') b) (.plus op) c).text? =
        (Node.binary line a (.plus op) (.binary line' b (.plus op') c)).text?) ∧
    (∀ (line line' : Option Int) (before values after : List Node),
      (Node.joined line (before ++ .joined line' values :: after)).text? =
        (Node.joined line (before ++ values ++ after)).text?) := by
  have hliteral (leaf : Node) :
      leaf.literal?.isSome ↔ ∃ line t, leaf = .constant line (.text t) := by
    rw [Option.isSome_iff_exists, exists_comm]
    exact exists_congr fun t => literal?_eq_some_iff
  have hsome : n.text?.isSome ↔ ∀ leaf ∈ n.fringe, ∃ line t, leaf = .constant line (.text t) := by
    rw [text?_eq_spelled?, isSome_spelled?_iff]
    simp only [hliteral]
  refine ⟨Option.isSome_iff_exists.symm.trans hsome, fun texts htexts => ?_,
    fun leaf hleaf hother => ?_, fun m hm => ?_, text?_regroup, text?_unnest⟩
  · rw [text?_eq_spelled?]
    exact spelled?_eq_join htexts
  · rw [← Option.not_isSome_iff_eq_none, hsome]
    intro hall
    obtain ⟨line, t, ht⟩ := hall leaf hleaf
    exact hother line t ht
  · rw [text?_eq_spelled?, text?_eq_spelled?]
    exact spelled?_congr hm

end Phrasebook.Node
