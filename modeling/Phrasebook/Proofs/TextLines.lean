import Mathlib.Data.List.Infix
import Phrasebook.Text.Basic

namespace Phrasebook.Text

theorem occursIn_iff {part whole : List Char} : occursIn part whole = true ↔ part <:+: whole := by
  induction whole with
  | nil => simp [occursIn]
  | cons c cs ih =>
    rw [occursIn, Bool.or_eq_true, ih, List.isPrefixOf_iff_prefix, List.infix_cons_iff]

theorem contains_iff {whole part : String} :
    contains whole part = true ↔ part.toList <:+: whole.toList :=
  occursIn_iff

theorem eq_nil_of_prefix_cons {c : Char} {s r : List Char} (hc : c ∉ s) (h : s <+: c :: r) :
    s = [] := by
  cases s with
  | nil => rfl
  | cons d s =>
    obtain ⟨rfl, -⟩ := List.cons_prefix_cons.mp h
    exact absurd List.mem_cons_self hc

theorem infix_append_cons_iff {c : Char} {s l r : List Char} (hc : c ∉ s) :
    s <:+: l ++ c :: r ↔ s <:+: l ∨ s <:+: r := by
  constructor
  · intro h
    obtain h | h | ⟨s₁, s₂, rfl, h₁, h₂⟩ := List.infix_append_iff.mp h
    · exact .inl h
    · obtain h | h := List.infix_cons_iff.mp h
      · rw [eq_nil_of_prefix_cons hc h]
        exact .inl (List.nil_infix)
      · exact .inr h
    · rw [List.mem_append, not_or] at hc
      rw [eq_nil_of_prefix_cons hc.2 h₂, List.append_nil]
      exact .inl h₁.isInfix
  · rintro (h | h)
    · exact List.infix_append_of_infix_left h
    · exact List.infix_append_of_infix_right (List.infix_cons h)

theorem infix_intercalate_iff {c : Char} {s : List Char} (hc : c ∉ s) {ls : List (List Char)}
    (hls : ls ≠ []) : s <:+: [c].intercalate ls ↔ ∃ l ∈ ls, s <:+: l := by
  induction ls with
  | nil => exact absurd rfl hls
  | cons l ls ih =>
    cases ls with
    | nil => simp
    | cons l' ls =>
      rw [List.intercalate_cons_cons, List.append_assoc, List.singleton_append,
        infix_append_cons_iff hc, ih (by simp)]
      simp only [List.exists_mem_cons_iff]

/-- A text that can stand on a line of its own and is seen there. -/
structure IsLine (s : String) : Prop where
  ne_empty : s ≠ ""
  no_newline : '\n' ∉ s.toList

theorem contains_intercalate_iff {s : String} (hs : IsLine s) {ls : List String} (hls : ls ≠ []) :
    contains ("\n".intercalate ls) s = true ↔ ∃ l ∈ ls, s.toList <:+: l.toList := by
  have hn : "\n".toList = ['\n'] := rfl
  rw [contains_iff, String.toList_intercalate, hn,
    infix_intercalate_iff hs.no_newline (by simpa using hls)]
  simp

theorem intercalate_ne_empty {ls : List String} (hls : ls ≠ []) (h : ∀ l ∈ ls, IsLine l) :
    "\n".intercalate ls ≠ "" := by
  cases ls with
  | nil => exact absurd rfl hls
  | cons l ls =>
    have hl := (h l List.mem_cons_self).ne_empty
    cases ls with
    | nil => simpa using hl
    | cons l' ls => simp [String.intercalate_cons_cons, hl]

def lines (s : String) : List String := (s.split '\n').toList.map (·.copy)

theorem lines_intercalate {ls : List String} (hls : ls ≠ []) (h : ∀ l ∈ ls, IsLine l) :
    lines ("\n".intercalate ls) = ls := by
  have hs := String.toList_split_intercalate fun l hl => (h l hl).no_newline
  rw [if_neg hls] at hs
  exact hs

end Phrasebook.Text
