import Phrasebook.Proofs.Recognition
import Phrasebook.Proofs.Traversal

namespace Phrasebook

namespace Node

def literalOr (n alternative : Node) : Node :=
  match n.text? with
  | some s => .constant n.line (.text s)
  | none => alternative

mutual

/-- A tree with each of its largest constant texts written as one literal. Of the nodes with parts,
only templates and sums can be such texts. -/
def fold : Node → Node
  | .blank => .blank
  | .plus line => .plus line
  | .constant line value => .constant line value
  | .name line id => .name line id
  | .attribute line value attr => .attribute line (fold value) attr
  | .joined line values => literalOr (.joined line values) (.joined line (foldAll values))
  | .binary line left op right =>
    literalOr (.binary line left op right) (.binary line (fold left) (fold op) (fold right))
  | .sequence line items => .sequence line (foldAll items)
  | .call line func args keywords =>
    .call line (fold func) (foldAll args) (foldAll keywords)
  | .other line children => .other line (foldAll children)

def foldAll : List Node → List Node
  | [] => []
  | n :: ns => fold n :: foldAll ns

end

theorem foldAll_eq_map (ns : List Node) : foldAll ns = ns.map fold := by
  induction ns with
  | nil => rfl
  | cons n ns ih => rw [foldAll, ih, List.map_cons]

/-- Whatever the sort of a constant text, a literal on its line takes its place. -/
theorem fold_of_text? {n : Node} {s : String} (h : n.text? = some s) :
    n.fold = .constant n.line (.text s) := by
  cases n with
  | constant line value =>
    cases value with
    | text t =>
      cases h
      rfl
    | other => cases h
  | joined | binary => simp only [fold, literalOr, h]
  | _ => simp [text?] at h

theorem apply_literalOr {α : Type} (f : Node → α) {n alternative : Node} {a : α}
    (hliteral : ∀ s, f (.constant n.line (.text s)) = a) (halternative : f alternative = a) :
    f (n.literalOr alternative) = a := by
  unfold literalOr
  split
  · exact hliteral _
  · exact halternative

theorem line_fold (n : Node) : n.fold.line = n.line := by
  cases n with
  | joined | binary => exact apply_literalOr line (fun _ => rfl) rfl
  | _ => rfl

theorem calleeName_fold (n : Node) : n.fold.calleeName = n.calleeName := by
  cases n with
  | joined | binary => exact apply_literalOr calleeName (fun _ => rfl) rfl
  | _ => rfl

theorem isPlus_fold (n : Node) : n.fold.isPlus = n.isPlus := by
  cases n with
  | joined | binary => exact apply_literalOr isPlus (fun _ => rfl) rfl
  | _ => rfl

theorem unwrap_literalOr {n alternative : Node} (h : Marker.unwrap alternative = alternative) :
    Marker.unwrap (n.literalOr alternative) = n.literalOr alternative := by
  unfold literalOr
  split
  · rfl
  · exact h

theorem unwrap_fold (n : Node) : Marker.unwrap n.fold = (Marker.unwrap n).fold := by
  cases n with
  | joined | binary => exact unwrap_literalOr rfl
  | sequence line items =>
    match items with
    | [] => rfl
    | [item] => rfl
    | a :: b :: rest => rfl
  | _ => rfl

theorem text?_fold (n : Node) : n.fold.text? = n.text? := by
  induction n using induction_on_children with
  | step n ih =>
    cases h : n.text? with
    | some s => rw [fold_of_text? h, text?]
    | none =>
      cases n with
      | joined line values =>
        have hv : texts? (foldAll values) = texts? values := by
          rw [foldAll_eq_map]
          exact texts?_map ih
        rw [text?] at h
        rw [fold, literalOr, text?, h, text?, hv, h]
      | binary line left op right =>
        simp only [children, List.forall_mem_cons] at ih
        obtain ⟨hl, -, hr, -⟩ := ih
        rw [fold, literalOr, h, text?_binary, isPlus_fold, hl, hr, ← text?_binary line, h]
      | constant line value => exact h
      | _ => rfl

theorem message?_fold (func : Node) (args : List Node) :
    func.fold.message? (foldAll args) = func.message? args := by
  rw [foldAll_eq_map]
  apply message?_map text?_fold
  · intro n
    rw [unwrap_fold, text?_fold]
  · exact calleeName_fold

theorem isPlain_of_text? {n : Node} {s : String} (h : n.text? = some s) : n.IsPlain := by
  cases n with
  | blank | call => simp [text?] at h
  | _ => trivial

theorem text?_of_texts? {ns : List Node} {s : String} (h : texts? ns = some s) :
    ∀ n ∈ ns, ∃ t, n.text? = some t := by
  induction ns generalizing s with
  | nil => simp
  | cons n ns ih =>
    simp only [texts?, Option.bind_eq_bind, Option.bind_eq_some_iff] at h
    obtain ⟨t, ht, u, hu, -⟩ := h
    exact List.forall_mem_cons.mpr ⟨⟨t, ht⟩, ih hu⟩

theorem text?_children {n : Node} {s : String} (h : n.text? = some s) :
    ∀ m ∈ n.children, (∃ t, m.text? = some t) ∨ m.isPlus := by
  cases n with
  | constant => simp [children]
  | joined line values =>
    rw [text?] at h
    exact fun m hm => .inl (text?_of_texts? h m hm)
  | binary line left op right =>
    rw [text?_binary] at h
    split at h
    · rename_i hop
      simp only [Option.bind_eq_bind, Option.bind_eq_some_iff] at h
      obtain ⟨l, hl, r, hr, -⟩ := h
      simp only [children, List.forall_mem_cons]
      exact ⟨.inl ⟨l, hl⟩, .inr hop, .inl ⟨r, hr⟩, by simp⟩
    · cases h
  | _ => simp [text?] at h

theorem fold_of_plain {n : Node} (hn : n.IsPlain) (h : n.text? = none) :
    n.fold.IsPlain ∧ n.fold.children = foldAll n.children := by
  cases n with
  | blank | call => exact hn.elim
  | joined | binary =>
    simp only [fold, literalOr, h]
    exact ⟨trivial, rfl⟩
  | _ => exact ⟨trivial, rfl⟩

end Node

end Phrasebook
