import Phrasebook.Proofs.Escaping
import Phrasebook.Proofs.TextLines

namespace Phrasebook.Text

/-- Read the codes of control characters back, from left to right. A backslash that begins no code
stands for itself. -/
def decodeChars : List Char → List Char
  | '\\' :: 'n' :: s => '\n' :: decodeChars s
  | '\\' :: 't' :: s => '\t' :: decodeChars s
  | '\\' :: '0' :: s => '\x00' :: decodeChars s
  | c :: s => c :: decodeChars s
  | [] => []

def decode (s : String) : String :=
  String.ofList (decodeChars s.toList)

theorem decodeChars_code {c : Char} {code : List Char} (h : (c, code) ∈ controlCodes)
    (s : List Char) : decodeChars (code ++ s) = c :: decodeChars s := by
  have hall : ∀ x ∈ controlCodes, decodeChars (x.2 ++ s) = x.1 :: decodeChars s := by
    simp [controlCodes, decodeChars]
  exact hall _ h

def BeginsNoCode (c : Char) (s : List Char) : Prop :=
  c = '\\' → ∀ d ∈ s.head?, d ∉ ['n', 't', '0']

theorem decodeChars_cons {c : Char} {s : List Char} (h : BeginsNoCode c s) :
    decodeChars (c :: s) = c :: decodeChars s := by
  rw [decodeChars]
  all_goals
    rintro t rfl rfl
    simpa using h rfl

theorem code_induction {P : List Char → Prop} (nil : P [])
    (code : ∀ c code s, (c, code) ∈ controlCodes → P s → P (code ++ s))
    (cons : ∀ c s, BeginsNoCode c s → P s → P (c :: s)) (s : List Char) : P s := by
  fun_induction decodeChars s with
  | case1 s ih => exact code '\n' ['\\', 'n'] s (by simp [controlCodes]) ih
  | case2 s ih => exact code '\t' ['\\', 't'] s (by simp [controlCodes]) ih
  | case3 s ih => exact code '\x00' ['\\', '0'] s (by simp [controlCodes]) ih
  | case4 c s hn ht h0 ih =>
    refine cons c s ?_ ih
    rintro rfl d hd
    obtain ⟨t, rfl⟩ := List.head?_eq_some_iff.mp hd
    simp only [List.mem_cons, List.not_mem_nil, or_false]
    rintro (rfl | rfl | rfl)
    · exact hn t rfl rfl
    · exact ht t rfl rfl
    · exact h0 t rfl rfl
  | case5 => exact nil

/-- Escaping puts a character at the front that was there before, or else a backslash. Neither can
end a code that was not there. -/
theorem BeginsNoCode.escapeChars {c : Char} {s : List Char} (h : BeginsNoCode c s) :
    BeginsNoCode c (escapeChars s) := by
  have hcodes : ∀ x ∈ controlCodes, x.2.head? = some '\\' := by decide
  intro hc d hd
  cases s with
  | nil => cases hd
  | cons e s =>
    rw [escapeChars_cons] at hd
    by_cases he : ∃ code, (e, code) ∈ controlCodes
    · obtain ⟨code, he⟩ := he
      rw [escapeChars_control he, List.head?_append, hcodes _ he] at hd
      cases hd
      decide
    · rw [escapeChars_plain (not_exists.mp he)] at hd
      exact h hc d hd

theorem decodeChars_escapeChars (s : List Char) : decodeChars (escapeChars s) = decodeChars s := by
  induction s using code_induction with
  | nil => rfl
  | code c code s h ih =>
    rw [escapeChars_append, escapeChars_code h, decodeChars_code h, decodeChars_code h, ih]
  | cons c s h ih =>
    rw [escapeChars_cons, decodeChars_cons h]
    by_cases hc : ∃ code, (c, code) ∈ controlCodes
    · obtain ⟨code, hc⟩ := hc
      rw [escapeChars_control hc, decodeChars_code hc, ih]
    · rw [escapeChars_plain (not_exists.mp hc), List.singleton_append,
        decodeChars_cons h.escapeChars, ih]

theorem escapeChars_decodeChars (s : List Char) : escapeChars (decodeChars s) = escapeChars s := by
  induction s using code_induction with
  | nil => rfl
  | code c code s h ih =>
    rw [decodeChars_code h, escapeChars_cons, escapeChars_control h, ih, escapeChars_append,
      escapeChars_code h]
  | cons c s h ih => rw [decodeChars_cons h, escapeChars_cons, ih, ← escapeChars_cons]

theorem decodeChars_eq_self {s : List Char} (h : ∀ x ∈ controlCodes, ¬ x.2 <:+: s) :
    decodeChars s = s := by
  induction s using code_induction with
  | nil => rfl
  | code c code s hcode ih => exact absurd (List.prefix_append code s).isInfix (h _ hcode)
  | cons c s hapart ih =>
    rw [decodeChars_cons hapart, ih fun x hx hin => h x hx (List.infix_cons hin)]

theorem decode_escape (s : String) : decode (escape s) = decode s := by
  rw [decode, escape, String.toList_ofList, decodeChars_escapeChars, decode]

theorem escape_decode (s : String) : escape (decode s) = escape s := by
  rw [escape, decode, String.toList_ofList, escapeChars_decodeChars, escape]

theorem escape_eq_escape_iff {s t : String} : escape s = escape t ↔ decode s = decode t := by
  constructor
  · intro h
    rw [← decode_escape s, h, decode_escape]
  · intro h
    rw [← escape_decode s, h, escape_decode]

def HasNoCode (s : String) : Prop :=
  ∀ code ∈ ["\\n", "\\t", "\\0"], contains s code = false

instance (s : String) : Decidable (HasNoCode s) :=
  List.decidableBAll (contains s · = false) ["\\n", "\\t", "\\0"]

theorem decode_eq_self {s : String} (h : HasNoCode s) : decode s = s := by
  have hcodes : ∀ x ∈ controlCodes, String.ofList x.2 ∈ ["\\n", "\\t", "\\0"] := by decide
  have hchars : decodeChars s.toList = s.toList := by
    refine decodeChars_eq_self fun x hx hin => ?_
    have hfalse := h _ (hcodes x hx)
    rw [← Bool.not_eq_true, contains_iff, String.toList_ofList] at hfalse
    exact hfalse hin
  rw [decode, hchars, String.ofList_toList]

theorem decode_escape_eq_self {s : String} (h : HasNoCode s) : decode (escape s) = s := by
  rw [decode_escape, decode_eq_self h]

end Phrasebook.Text
