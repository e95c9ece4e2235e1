import Phrasebook.Proofs.Escaping

namespace Phrasebook.Text

def codeIn (table : List (Char × List Char)) (c : Char) : List Char :=
  (table.lookup c).getD [c]

theorem codeIn_cons (x : Char × List Char) (table : List (Char × List Char)) (c : Char) :
    codeIn (x :: table) c = if c = x.1 then x.2 else codeIn table c := by
  obtain ⟨raw, code⟩ := x
  rw [codeIn, List.lookup_cons]
  by_cases h : c = raw
  · simp [h]
  · rw [beq_false_of_ne h, if_neg h, codeIn]

/-- No pass of the table touches what another one replaces or writes. -/
structure Independent (table : List (Char × List Char)) : Prop where
  unique : ∀ x ∈ table, ∀ y ∈ table, x.1 = y.1 → x = y
  settled : ∀ x ∈ table, ∀ y ∈ table, x.1 ∉ y.2

theorem independent_controlCodes : Independent controlCodes := by
  constructor <;> decide

section Passes

variable {table table' : List (Char × List Char)}

theorem Independent.subset (h : Independent table) (hsub : table' ⊆ table) :
    Independent table' where
  unique x hx y hy := h.unique x (hsub hx) y (hsub hy)
  settled x hx y hy := h.settled x (hsub hx) y (hsub hy)

theorem passes_eq_flatMap_singleton (table : List (Char × List Char)) (s : List Char) :
    passes table s = s.flatMap fun c => passes table [c] := by
  induction s with
  | nil => exact passes_of_not_mem (by simp)
  | cons c s ih => rw [List.flatMap_cons, ← ih, ← passes_append, List.singleton_append]

theorem passes_singleton (h : Independent table) (c : Char) :
    passes table [c] = codeIn table c := by
  induction table with
  | nil => rfl
  | cons x table ih =>
    rw [passes_cons]
    by_cases hc : c = x.1
    · -- the code is written now, and the later passes have nothing to replace in it
      have hcode : substitute x.1 x.2 [c] = x.2 := by simp [substitute, hc]
      have hlater : passes table x.2 = x.2 := by
        apply passes_of_not_mem
        intro d hd
        obtain ⟨y, hy, rfl⟩ := List.mem_map.mp hd
        exact h.settled y (List.mem_cons_of_mem x hy) x List.mem_cons_self
      rw [hcode, hlater, codeIn_cons, if_pos hc]
    · have hkept : substitute x.1 x.2 [c] = [c] :=
        substitute_of_not_mem (by simpa using Ne.symm hc) x.2
      rw [hkept, ih (h.subset (List.subset_cons_self x table)), codeIn_cons, if_neg hc]

/-- Passes one after another do the same as all replacements at once. -/
theorem passes_eq_flatMap_codeIn (h : Independent table) (s : List Char) :
    passes table s = s.flatMap (codeIn table) := by
  rw [passes_eq_flatMap_singleton]
  congr 1
  funext c
  exact passes_singleton h c

theorem codeIn_swap {x y : Char × List Char} (h : x.1 ≠ y.1) : codeIn [x, y] = codeIn [y, x] := by
  funext c
  simp only [codeIn_cons]
  by_cases hx : c = x.1
  · have hy : c ≠ y.1 := hx ▸ h
    rw [if_pos hx, if_neg hy, if_pos hx]
  · rw [if_neg hx, if_neg hx]

theorem Independent.passes_swap (h : Independent table) {x y : Char × List Char} (hx : x ∈ table)
    (hy : y ∈ table) (s : List Char) : passes [x, y] s = passes [y, x] s := by
  by_cases hxy : x = y
  · rw [hxy]
  · have hne : x.1 ≠ y.1 := fun he => hxy (h.unique x hx y hy he)
    rw [passes_eq_flatMap_codeIn (h.subset (by simp [hx, hy])),
      passes_eq_flatMap_codeIn (h.subset (by simp [hx, hy])), codeIn_swap hne]

theorem passes_perm (h : Independent table) (hperm : table.Perm table') (s : List Char) :
    passes table s = passes table' s :=
  hperm.foldl_eq' (fun _ hx _ hy s => h.passes_swap hx hy s) s

end Passes

theorem passes_eq_escapeChars {table : List (Char × List Char)} (h : table.Perm controlCodes)
    (s : List Char) : passes table s = escapeChars s :=
  (passes_perm independent_controlCodes h.symm s).symm

theorem escapeChars_eq_flatMap (s : List Char) :
    escapeChars s = s.flatMap (codeIn controlCodes) :=
  passes_eq_flatMap_codeIn independent_controlCodes s

theorem escape_append (s t : String) : escape (s ++ t) = escape s ++ escape t := by
  rw [escape, String.toList_append, escapeChars_append, String.ofList_append, escape, escape]

theorem exists_escape_eq_iff {u : String} : (∃ s, escape s = u) ↔ IsEscaped u := by
  constructor
  · rintro ⟨s, rfl⟩
    exact isEscaped_escape s
  · intro h
    exact ⟨u, escape_eq_self_iff.mpr h⟩

/-- The order of the passes makes no difference to escaping, which replaces all control characters
at once. It therefore goes part by part, changes exactly the texts with a raw control character, and
gives exactly the texts without one. -/
theorem escape_substitutes_at_once :
    (∀ table : List (Char × List Char), table.Perm controlCodes → ∀ s : String,
      String.ofList (passes table s.toList) = escape s) ∧
    (∀ s : String, escape s = String.ofList (s.toList.flatMap (codeIn controlCodes))) ∧
    (∀ s t : String, escape (s ++ t) = escape s ++ escape t) ∧
    (∀ s : String, escape s = s ↔ IsEscaped s) ∧
    (∀ s : String, escape (escape s) = escape s) ∧
    ∀ u : String, (∃ s, escape s = u) ↔ IsEscaped u := by
  refine ⟨fun table hperm s => ?_, fun s => ?_, escape_append, fun s => escape_eq_self_iff,
    fun s => escape_eq_self_iff.mpr (isEscaped_escape s), fun u => exists_escape_eq_iff⟩
  · rw [passes_eq_escapeChars hperm, escape]
  · rw [escape, escapeChars_eq_flatMap]

theorem escape_substitutes_at_once_reversed :
    let table := [('\x00', ['\\', '0']), ('\t', ['\\', 't']), ('\n', ['\\', 'n'])]
    let s := "\\\n\tn\\t\x000"
    table.Perm controlCodes ∧ String.ofList (passes table s.toList) = escape s ∧
      escape s = "\\\\n\\tn\\t\\00" := by
  intro table s
  have hperm : table.Perm controlCodes := by decide
  exact ⟨hperm, escape_substitutes_at_once.1 table hperm s, by decide +kernel⟩

end Phrasebook.Text
