import Phrasebook.Proofs.CallOrder
import Phrasebook.Proofs.Escaping

namespace Phrasebook

inductive Node.GoesBy : Node → String → Prop
  | bare (line : Option Int) (id : String) : GoesBy (.name line id) id
  | member (line : Option Int) (value : Node) (attr : String) :
    GoesBy (.attribute line value attr) attr

theorem Node.calleeName_eq_some_iff {func : Node} {name : String} :
    func.calleeName = some name ↔ func.GoesBy name := by
  constructor
  · intro h
    match func, h with
    | .name line id, rfl => exact .bare line id
    | .attribute line value attr, rfl => exact .member line value attr
  · intro h
    cases h <;> rfl

namespace Marker

def commentAt (args : List Node) (i : Nat) : Option String :=
  ((textAt args i).filter (· ≠ "")).map Text.escape

/-- The entry of a call by its name and arguments, with one rule for each layout. -/
inductive Yields (place : String) (args : List Node) : String → Entry → Prop
  | simple {name msgid : String} {first : Node} (hname : name ∈ ["_", "N_", "s_"])
      (hfirst : args[0]? = some first) (hmsgid : (unwrap first).text? = some msgid) :
    Yields place args name {
      kind := .normal, msgid := Text.escape msgid
      references := [place], comment := commentAt args 1 }
  | context {name msgctxt msgid : String} (hname : name ∈ ["p_", "pgettext"])
      (hmsgctxt : textAt args 0 = some msgctxt) (hmsgid : textAt args 1 = some msgid) :
    Yields place args name {
      kind := .context, msgid := Text.escape msgid, msgctxt := some (Text.escape msgctxt)
      references := [place], comment := commentAt args 2 }
  | plural {name singular plural : String} (hname : name = "n_")
      (hsingular : textAt args 0 = some singular) (hplural : textAt args 1 = some plural) :
    Yields place args name {
      kind := .plural, msgid := Text.escape singular, msgidPlural := some (Text.escape plural)
      references := [place], comment := commentAt args 3 }

theorem joinComments_escape (text : Option String) :
    Entry.joinComments none (text.map Text.escape) =
      (text.filter (· ≠ "")).map Text.escape := by
  cases text with
  | none => rfl
  | some t =>
    by_cases ht : t = "" <;>
      simp [Entry.joinComments, Text.escape_eq_empty_iff, Option.filter, ht]

def spellings : Marker → List String
  | .simple => ["_", "N_", "s_"]
  | .context => ["p_", "pgettext"]
  | .plural => ["n_"]

theorem ofName?_eq_some_iff (marker : Marker) {name : String} :
    ofName? name = some marker ↔ name ∈ marker.spellings := by
  constructor
  · intro h
    have hnames : ∀ x ∈ names, x.1 ∈ x.2.spellings := by decide
    obtain ⟨before, after, hsplit, -⟩ := List.lookup_eq_some_iff.mp h
    apply hnames (name, marker)
    rw [hsplit]
    simp
  · have hspellings : ∀ m ∈ [simple, context, plural], ∀ s ∈ m.spellings, ofName? s = some m := by
      decide
    exact hspellings marker (by cases marker <;> decide) name

theorem Yields.of_read {place name : String} {args : List Node} {marker : Marker} {m : Message}
    (hname : ofName? name = some marker) (hm : marker.read args = some m) :
    Yields place args name (Entry.ofMessage m place) := by
  rw [ofName?_eq_some_iff] at hname
  cases marker with
  | simple =>
    simp only [read, Option.bind_eq_bind, Option.bind_eq_some_iff, Option.pure_def,
      Option.some.injEq] at hm
    obtain ⟨msgid, ⟨first, hfirst, hmsgid⟩, rfl⟩ := hm
    rw [Entry.ofMessage, joinComments_escape]
    exact .simple hname hfirst hmsgid
  | context =>
    simp only [read, Option.bind_eq_bind, Option.bind_eq_some_iff, Option.pure_def,
      Option.some.injEq] at hm
    obtain ⟨msgctxt, hmsgctxt, msgid, hmsgid, rfl⟩ := hm
    rw [Entry.ofMessage, joinComments_escape]
    exact .context hname hmsgctxt hmsgid
  | plural =>
    simp only [read, Option.bind_eq_bind, Option.bind_eq_some_iff, Option.pure_def,
      Option.some.injEq] at hm
    obtain ⟨singular, hsingular, plural, hplural, rfl⟩ := hm
    rw [Entry.ofMessage, joinComments_escape]
    exact .plural (List.mem_singleton.mp hname) hsingular hplural

/-- The rules say what reading a call by its marker and escaping the message amount to. -/
theorem yields_iff {place name : String} {args : List Node} {e : Entry} :
    Yields place args name e ↔
      ∃ marker m, ofName? name = some marker ∧ marker.read args = some m ∧
        Entry.ofMessage m place = e := by
  constructor
  · intro h
    cases h with
    | @simple msgid first hname hfirst hmsgid =>
      refine ⟨.simple, { kind := .normal, msgid, comment := textAt args 1 },
        (ofName?_eq_some_iff .simple).mpr hname, ?_, ?_⟩
      · simp [read, hfirst, hmsgid]
      · rw [Entry.ofMessage, joinComments_escape]
        rfl
    | @context msgctxt msgid hname hmsgctxt hmsgid =>
      refine ⟨.context, { kind := .context, msgid, msgctxt := some msgctxt
                          comment := textAt args 2 },
        (ofName?_eq_some_iff .context).mpr hname, ?_, ?_⟩
      · simp [read, hmsgctxt, hmsgid]
      · rw [Entry.ofMessage, joinComments_escape]
        rfl
    | @plural singular plural hname hsingular hplural =>
      refine ⟨.plural, { kind := .plural, msgid := singular, msgidPlural := some plural
                         comment := textAt args 3 },
        (ofName?_eq_some_iff .plural).mpr (List.mem_singleton.mpr hname), ?_, ?_⟩
      · simp [read, hsingular, hplural]
      · rw [Entry.ofMessage, joinComments_escape]
        rfl
  · rintro ⟨marker, m, hname, hm, rfl⟩
    exact .of_read hname hm

/-- The texts that a call of the marker depends on: those it requires, and its comment. -/
def consulted : Marker → List Node → List (Option String)
  | .simple, args => simple.required args ++ [textAt args 1]
  | .context, args => context.required args ++ [textAt args 2]
  | .plural, args => plural.required args ++ [textAt args 3]

theorem read_congr {marker : Marker} {args args' : List Node}
    (h : marker.consulted args' = marker.consulted args) :
    marker.read args' = marker.read args := by
  cases marker with
  | simple =>
    simp only [consulted, required, List.cons_append, List.nil_append, List.cons.injEq] at h
    obtain ⟨hfirst, hcomment, -⟩ := h
    simp only [read, hfirst, hcomment]
  | context | plural =>
    simp only [consulted, required, List.cons_append, List.nil_append, List.cons.injEq] at h
    obtain ⟨hfirst, hsecond, hcomment, -⟩ := h
    simp only [read, hfirst, hsecond, hcomment]

end Marker

theorem Node.message?_congr {func func' : Node} {args args' : List Node}
    (hname : func'.calleeName = func.calleeName)
    (hargs : ∀ marker, (func.calleeName >>= Marker.ofName?) = some marker →
      marker.consulted args' = marker.consulted args) :
    func'.message? args' = func.message? args := by
  rw [message?, message?, hname]
  cases hcallee : func.calleeName with
  | none => rfl
  | some name =>
    simp only [Option.bind_eq_bind, Option.bind_some]
    cases hmarker : Marker.ofName? name with
    | none => rfl
    | some marker => exact Marker.read_congr (hargs marker (by simp [hcallee, hmarker]))

/-- A call with a line is recognised by the rule of its marker, and never fails. Nothing but the
name of its callee, its line and the texts that the rule looks at has a say in the result. -/
theorem call_recognised_by_rule (filename : String) (line : Int) (func : Node)
    (args keywords : List Node) :
    let call : Node := .call (some line) func args keywords
    Collector.entryFor filename (some line) func args = .ok (call.candidate? filename) ∧
    (∀ e, call.candidate? filename = some e ↔
      ∃ name, func.GoesBy name ∧
        Marker.Yields (filename ++ ":" ++ toString line) args name e) ∧
    ∀ (func' : Node) (args' keywords' : List Node),
      func'.calleeName = func.calleeName →
      (∀ marker, (func.calleeName >>= Marker.ofName?) = some marker →
        marker.consulted args' = marker.consulted args) →
      (Node.call (some line) func' args' keywords').candidate? filename =
        call.candidate? filename := by
  intro call
  refine ⟨?_, fun e => ?_, fun func' args' keywords' hname hargs => ?_⟩
  · rw [Collector.entryFor_eq]
    rfl
  · have hcandidate : call.candidate? filename = some e ↔
        ∃ l m, some line = some l ∧ func.message? args = some m ∧
          e = Entry.ofMessage m (reference filename l) := Collector.candidate?_eq_some_iff
    rw [hcandidate]
    constructor
    · rintro ⟨l, m, hl, hm, rfl⟩
      cases hl
      simp only [Node.message?, Option.bind_eq_bind, Option.bind_eq_some_iff] at hm
      obtain ⟨name, hname, marker, hmarker, hm⟩ := hm
      exact ⟨name, Node.calleeName_eq_some_iff.mp hname, .of_read hmarker hm⟩
    · rintro ⟨name, hname, hyields⟩
      obtain ⟨marker, m, hmarker, hm, rfl⟩ := Marker.yields_iff.mp hyields
      refine ⟨line, m, rfl, ?_, rfl⟩
      rw [Node.message?, Node.calleeName_eq_some_iff.mpr hname]
      simp [hmarker, hm]
  · have hmessage := Node.message?_congr hname hargs
    simp only [call, Node.candidate?, Collector.candidate?, Collector.entryFor, hmessage]

theorem call_recognised_by_rule_plural :
    let text (s : String) : Node := .constant (some 2) (.text s)
    let sum (a b : Node) : Node := .binary (some 2) a (.plus none) b
    let call : Node := .call (some 2) (.name (some 2) "n_")
      [text "file", text "files", .name (some 2) "n", text "a\tb"] []
    let call' : Node := .call (some 2) (.attribute (some 2) (.name (some 2) "app") "n_")
      [text "file", sum (text "fi") (text "les"), text "7", text "a\tb", text "more"]
      [.other (some 2) [text "key"]]
    let e : Entry := {
      kind := .plural, msgid := "file", msgidPlural := some "files", references := ["f:2"]
      comment := some "a\\tb" }
    call.candidate? "f" = some e ∧ call'.candidate? "f" = some e := by
  intro text sum call call' e
  have hcall : call.candidate? "f" = some e := by decide +kernel
  obtain ⟨-, -, hsame⟩ := call_recognised_by_rule "f" 2 (.name (some 2) "n_")
    [text "file", text "files", .name (some 2) "n", text "a\tb"] []
  have hcall' : call'.candidate? "f" = call.candidate? "f" := by
    apply hsame
    · rfl
    · intro marker hmarker
      obtain rfl : Marker.plural = marker := Option.some.inj hmarker
      decide +kernel
  exact ⟨hcall, hcall'.trans hcall⟩

end Phrasebook
