import Phrasebook.Text.Basic

namespace Phrasebook.Text

theorem mem_substitute {raw c : Char} {code s : List Char} :
    c ∈ substitute raw code s ↔ (raw ∈ s ∧ c ∈ code) ∨ (c ∈ s ∧ c ≠ raw) := by
  rw [substitute, List.mem_flatMap]
  constructor
  · rintro ⟨d, hd, hc⟩
    by_cases hr : d = raw
    · subst hr
      exact .inl ⟨hd, by simpa using hc⟩
    · obtain rfl : c = d := by simpa [hr] using hc
      exact .inr ⟨hd, hr⟩
  · rintro (⟨hr, hc⟩ | ⟨hc, hr⟩)
    · exact ⟨raw, hr, by simpa using hc⟩
    · exact ⟨c, hc, by simp [hr]⟩

def passes (table : List (Char × List Char)) (s : List Char) : List Char :=
  table.foldl (fun s code => substitute code.1 code.2 s) s

theorem passes_cons (code : Char × List Char) (table : List (Char × List Char)) (s : List Char) :
    passes (code :: table) s = passes table (substitute code.1 code.2 s) := rfl

theorem passes_append (table : List (Char × List Char)) (s t : List Char) :
    passes table (s ++ t) = passes table s ++ passes table t := by
  induction table generalizing s t with
  | nil => rfl
  | cons code table ih =>
    have hsubstitute : substitute code.1 code.2 (s ++ t) =
        substitute code.1 code.2 s ++ substitute code.1 code.2 t := List.flatMap_append
    rw [passes_cons, passes_cons, passes_cons, hsubstitute, ih]

theorem not_mem_passes {table : List (Char × List Char)} {c : Char} {s : List Char}
    (hcodes : ∀ code ∈ table, c ∉ code.2) (hs : c ∉ s) : c ∉ passes table s := by
  induction table generalizing s with
  | nil => exact hs
  | cons code table ih =>
    rw [List.forall_mem_cons] at hcodes
    rw [passes_cons]
    refine ih hcodes.2 fun hc => ?_
    obtain ⟨-, hc⟩ | ⟨hc, -⟩ := mem_substitute.mp hc
    · exact hcodes.1 hc
    · exact hs hc

/-- When no code holds a character of the table, all of these are gone after the last pass. -/
theorem not_mem_passes_of_mem {table : List (Char × List Char)} {c : Char}
    (hcodes : ∀ code ∈ table, c ∉ code.2) (hc : c ∈ table.map Prod.fst) (s : List Char) :
    c ∉ passes table s := by
  induction table generalizing s with
  | nil => simp at hc
  | cons code table ih =>
    rw [List.forall_mem_cons] at hcodes
    rw [passes_cons]
    obtain rfl | hc := List.mem_cons.mp hc
    · refine not_mem_passes hcodes.2 fun hc => ?_
      obtain ⟨-, hc⟩ | ⟨-, hne⟩ := mem_substitute.mp hc
      · exact hcodes.1 hc
      · exact hne rfl
    · exact ih hcodes.2 hc _

theorem substitute_of_not_mem {raw : Char} {s : List Char} (h : raw ∉ s) (code : List Char) :
    substitute raw code s = s := by
  induction s with
  | nil => rfl
  | cons c s ih =>
    rw [List.mem_cons, not_or] at h
    have hne : c ≠ raw := Ne.symm h.1
    rw [substitute, List.flatMap_cons, if_neg hne]
    exact congrArg (c :: ·) (ih h.2)

theorem passes_of_not_mem {table : List (Char × List Char)} {s : List Char}
    (h : ∀ c ∈ table.map Prod.fst, c ∉ s) : passes table s = s := by
  induction table with
  | nil => rfl
  | cons code table ih =>
    rw [List.map_cons, List.forall_mem_cons] at h
    rw [passes_cons, substitute_of_not_mem h.1]
    exact ih h.2

theorem escapeChars_append (s t : List Char) :
    escapeChars (s ++ t) = escapeChars s ++ escapeChars t :=
  passes_append controlCodes s t

theorem escapeChars_cons (c : Char) (s : List Char) :
    escapeChars (c :: s) = escapeChars [c] ++ escapeChars s :=
  escapeChars_append [c] s

theorem escapeChars_control {c : Char} {code : List Char} (h : (c, code) ∈ controlCodes) :
    escapeChars [c] = code := by
  have hall : ∀ x ∈ controlCodes, escapeChars [x.1] = x.2 := by decide
  exact hall _ h

theorem escapeChars_code {c : Char} {code : List Char} (h : (c, code) ∈ controlCodes) :
    escapeChars code = code := by
  have hall : ∀ x ∈ controlCodes, escapeChars x.2 = x.2 := by decide
  exact hall _ h

theorem escapeChars_plain {c : Char} (h : ∀ code, (c, code) ∉ controlCodes) :
    escapeChars [c] = [c] := by
  refine passes_of_not_mem fun d hd hmem => ?_
  obtain ⟨⟨raw, code⟩, hcode, rfl⟩ := List.mem_map.mp hd
  cases List.mem_singleton.mp hmem
  exact h code hcode

theorem control_not_mem_escape {c : Char} (hc : c ∈ controlCodes.map Prod.fst) (s : String) :
    c ∉ (escape s).toList := by
  have hcodes : ∀ c ∈ controlCodes.map Prod.fst, ∀ code ∈ controlCodes, c ∉ code.2 := by
    simp [controlCodes]
  rw [escape, String.toList_ofList]
  exact not_mem_passes_of_mem (hcodes c hc) hc s.toList

theorem escapeChars_ne_nil (c : Char) (s : List Char) : escapeChars (c :: s) ≠ [] := by
  have hcodes : ∀ x ∈ controlCodes, x.2 ≠ [] := by decide
  rw [escapeChars_cons]
  apply List.append_ne_nil_of_left_ne_nil
  by_cases hc : ∃ code, (c, code) ∈ controlCodes
  · obtain ⟨code, hc⟩ := hc
    rw [escapeChars_control hc]
    exact hcodes _ hc
  · rw [escapeChars_plain (not_exists.mp hc)]
    simp

theorem escape_eq_empty_iff {s : String} : escape s = "" ↔ s = "" := by
  constructor
  · intro h
    have hnil : (escape s).toList = [] := by simp [h]
    rw [escape, String.toList_ofList] at hnil
    cases hs : s.toList with
    | nil => simpa using hs
    | cons c cs =>
      rw [hs] at hnil
      exact absurd hnil (escapeChars_ne_nil c cs)
  · rintro rfl
    rfl

def IsEscaped (s : String) : Prop := ∀ c ∈ ['\n', '\t', '\x00'], c ∉ s.toList

instance (s : String) : Decidable (IsEscaped s) :=
  List.decidableBAll (· ∉ s.toList) ['\n', '\t', '\x00']

theorem isEscaped_escape (s : String) : IsEscaped (escape s) :=
  fun _ hc => control_not_mem_escape hc s

theorem escape_eq_self_iff {s : String} : escape s = s ↔ IsEscaped s := by
  constructor
  · intro h
    rw [← h]
    exact isEscaped_escape s
  · intro h
    have hpasses : escapeChars s.toList = s.toList := passes_of_not_mem h
    rw [escape, hpasses, String.ofList_toList]

end Phrasebook.Text
