import Phrasebook.Collector

namespace Phrasebook

def Marker.required : Marker → List Node → List (Option String)
  | .simple, args => [args[0]? >>= fun first => (unwrap first).text?]
  | .context, args | .plural, args => [textAt args 0, textAt args 1]

theorem Marker.isSome_read (marker : Marker) (args : List Node) :
    (marker.read args).isSome = (marker.required args).all Option.isSome := by
  cases marker with
  | simple =>
    simp only [read, required, List.all_cons, List.all_nil, Bool.and_true]
    cases args[0]? >>= fun first => (unwrap first).text? <;> rfl
  | context | plural =>
    simp only [read, required, List.all_cons, List.all_nil, Bool.and_true]
    cases textAt args 0 <;> cases textAt args 1 <;> rfl

def Node.marks (func : Node) (args : List Node) : Bool :=
  match func.calleeName >>= Marker.ofName? with
  | some marker => (marker.required args).all Option.isSome
  | none => false

def Node.marked (line : Int) (text comment : String) : Node :=
  .call (some line) (.name (some line) "_")
    [.constant (some line) (.text text), .constant (some line) (.text comment)] []

theorem Node.isSome_message? (func : Node) (args : List Node) :
    (func.message? args).isSome = func.marks args := by
  unfold message? marks
  cases func.calleeName with
  | none => rfl
  | some name =>
    simp only [Option.bind_eq_bind, Option.bind_some]
    cases Marker.ofName? name with
    | none => rfl
    | some marker => exact marker.isSome_read args

namespace Node

def isPlus : Node → Bool
  | .plus _ => true
  | _ => false

theorem text?_binary (line : Option Int) (left op right : Node) :
    (Node.binary line left op right).text? =
      if op.isPlus then do
        let l ← left.text?
        let r ← right.text?
        return l ++ r
      else none := by
  cases op <;> simp [text?, isPlus]

theorem texts?_map {f : Node → Node} {ns : List Node} (h : ∀ n ∈ ns, (f n).text? = n.text?) :
    texts? (ns.map f) = texts? ns := by
  induction ns with
  | nil => rfl
  | cons n ns ih =>
    rw [List.forall_mem_cons] at h
    rw [List.map_cons, texts?, texts?, h.1, ih h.2]

end Node

section Map

variable {f : Node → Node} (htext : ∀ n, (f n).text? = n.text?)

include htext

theorem Marker.textAt_map (args : List Node) (i : Nat) :
    textAt (args.map f) i = textAt args i := by
  rw [textAt, textAt, List.getElem?_map]
  cases args[i]? with
  | none => rfl
  | some n => exact htext n

variable (hunwrap : ∀ n, (Marker.unwrap (f n)).text? = (Marker.unwrap n).text?)

include hunwrap

theorem Marker.read_map (marker : Marker) (args : List Node) :
    marker.read (args.map f) = marker.read args := by
  cases marker with
  | simple =>
    have hfirst : ((args.map f)[0]? >>= fun first => (unwrap first).text?) =
        args[0]? >>= fun first => (unwrap first).text? := by
      rw [List.getElem?_map]
      cases args[0]? with
      | none => rfl
      | some n => exact hunwrap n
    simp only [read, hfirst, textAt_map htext]
  | context | plural => simp only [read, textAt_map htext]

/-- A change to trees that keeps texts and callees keeps messages. -/
theorem Node.message?_map (hcallee : ∀ n, (f n).calleeName = n.calleeName) (func : Node)
    (args : List Node) : (f func).message? (args.map f) = func.message? args := by
  simp only [message?, hcallee, Marker.read_map htext hunwrap]

end Map

theorem Entry.comment_ofMessage {m : Message} {place text : String}
    (h : (ofMessage m place).comment = some text) : text ≠ "" ∧ ∃ t, Text.escape t = text := by
  simp only [ofMessage, joinComments] at h
  split at h
  · cases h
  · rename_i hne
    rw [Option.getD_none, if_pos rfl] at h
    rw [h] at hne
    obtain ⟨t, -, ht⟩ := Option.map_eq_some_iff.mp h
    exact ⟨hne, t, ht⟩

namespace Collector

variable (filename : String) (line : Option Int) (func : Node) (args : List Node)

/-- The entry that recognition gives for a call, if it gives one. -/
def candidate? : Option Entry :=
  (entryFor filename line func args).toOption.join

def unplaced : Bool := line.isNone && func.marks args

theorem entryFor_eq :
    entryFor filename line func args =
      if unplaced line func args then .error .callWithoutLine
      else .ok (candidate? filename line func args) := by
  have hm := func.isSome_message? args
  unfold candidate? unplaced entryFor
  cases h : func.message? args with
  | none => simp_all [Except.toOption]
  | some m =>
    cases line with
    | none => simp_all
    | some l => simp [Except.toOption]

theorem candidate?_eq_some_iff {filename : String} {line : Option Int} {func : Node}
    {args : List Node} {e : Entry} :
    candidate? filename line func args = some e ↔
      ∃ l m, line = some l ∧ func.message? args = some m ∧
        e = Entry.ofMessage m (reference filename l) := by
  unfold candidate? entryFor
  cases func.message? args with
  | none => simp [Except.toOption]
  | some m =>
    cases line with
    | none => simp [Except.toOption]
    | some l => simp [Except.toOption, eq_comm]

end Collector

end Phrasebook
