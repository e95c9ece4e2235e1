import Mathlib.Data.List.Basic

namespace Phrasebook.Catalog

variable {α : Type} [BEq α] [LawfulBEq α]

def appendNew (seen : List α) (a : α) : List α :=
  if a ∈ seen then seen else seen ++ [a]

theorem nodup_appendNew {seen : List α} (h : seen.Nodup) (a : α) :
    (appendNew seen a).Nodup := by
  unfold appendNew
  split
  · exact h
  · rename_i hn
    rw [List.nodup_append]
    refine ⟨h, by simp, fun b hb c hc => ?_⟩
    obtain rfl := List.mem_singleton.mp hc
    exact fun hbc => hn (hbc ▸ hb)

theorem prefix_appendNew (seen : List α) (a : α) : seen <+: appendNew seen a := by
  unfold appendNew
  split
  · exact List.prefix_rfl
  · exact List.prefix_append _ _

theorem foldl_appendNew (seen as : List α) :
    as.foldl appendNew seen = seen ++ (as.filter (· ∉ seen)).eraseDups := by
  induction as generalizing seen with
  | nil => simp
  | cons a as ih =>
    rw [List.foldl_cons, ih, appendNew]
    by_cases ha : a ∈ seen
    · simp only [ha, ↓reduceIte, List.filter_cons, not_true_eq_false, decide_false,
        Bool.false_eq_true]
    · simp only [ha, ↓reduceIte, List.filter_cons, not_false_eq_true, decide_true,
        List.eraseDups_cons, List.append_assoc, List.singleton_append, List.filter_filter]
      congr 3
      apply List.filter_congr
      intro b _
      by_cases hb : b = a <;> simp [hb]

theorem nodup_eraseDups (as : List α) : as.eraseDups.Nodup := by
  have hf : ∀ seen : List α, seen.Nodup → (as.foldl appendNew seen).Nodup := by
    induction as with
    | nil => exact fun _ h => h
    | cons a as ih => exact fun seen h => ih _ (nodup_appendNew h a)
  have h := hf [] List.nodup_nil
  rw [foldl_appendNew] at h
  simpa using h

end Phrasebook.Catalog
