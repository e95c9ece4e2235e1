import Phrasebook.Catalog.Draft
import Phrasebook.Collector

namespace Phrasebook

/-- What a named slot of the desk holds: an entry of its own, or one that stands in the catalog,
known by its position there. -/
inductive Holding where
  | loose (entry : Entry)
  | shelved (position : Nat)

structure Desk where
  collector : Collector
  slots : List (String × Holding) := []

inductive Change where
  | kind (label : String)
  | msgid (text : String)
  | msgctxt (text : Option String)
  | comment (text : Option String)

inductive Action where
  | place (slot : String) (record : Record)
  | build (slot : String) (draft : Draft)
  | take (slot : String) (index : Int)
  | change (slot : String) (what : Change)
  | withComment (slot : String) (comment : Option String)
  | insert (slot : String)
  | find (slot : String)
  | insertKey (key place : String)
  | inspect (slot : String)
  | visit (tree : Node)
  | rename (filename : String)
  | limit (maxDepth : Option Int)
  | summary

inductive Reply where
  | done
  | position (i : Option Nat)
  | entry (e : Entry)
  | summary (texts : List String)

inductive DeskError where
  | draft (cause : DraftError)
  | visit (cause : Fault)
  | outOfRange
  | emptySlot (slot : String)

namespace DeskError

def message : DeskError → String
  | .draft cause => cause.message
  | .visit cause => cause.message
  | .outOfRange => "list index out of range"
  | .emptySlot slot => s!"nothing in slot {slot}"

end DeskError

def Change.apply (e : Entry) : Change → Except DraftError Entry
  | .kind label => do return { e with kind := ← Draft.readKind label }
  | .msgid text => .ok { e with msgid := text }
  | .msgctxt text => .ok { e with msgctxt := text }
  | .comment text => .ok { e with comment := text }

namespace Desk

def start (filename : String) (seeds : List String) (maxDepth : Option Int) : Desk :=
  { collector := Collector.start filename seeds maxDepth }

def catalog (d : Desk) : Catalog := d.collector.catalog

def entries (d : Desk) : List Entry := d.catalog.entries

def positionOf? (d : Desk) (index : Int) : Option Nat :=
  let size : Int := d.entries.length
  let i := if index < 0 then index + size else index
  if 0 ≤ i ∧ i < size then some i.toNat else none

/-- Work at the desk: what was changed before an error stays changed. -/
abbrev Work := EStateM DeskError Desk

def setCatalog (c : Catalog) : Work Unit :=
  modify fun d => { d with collector := { d.collector with catalog := c } }

def hold (slot : String) (h : Holding) : Work Unit :=
  modify fun d => { d with slots := (slot, h) :: d.slots.filter fun s => s.1 ≠ slot }

def checked {α : Type} : Except DraftError α → Work α
  | .ok a => pure a
  | .error cause => throw (.draft cause)

def look (slot : String) : Work (Holding × Entry) := do
  let d ← get
  match d.slots.lookup slot with
  | none => throw (.emptySlot slot)
  | some (.loose e) => return (.loose e, e)
  | some (.shelved i) =>
    match d.entries[i]? with
    | some e => return (.shelved i, e)
    | none => throw .outOfRange

def putBack (slot : String) (e : Entry) : Holding → Work Unit
  | .loose _ => hold slot (.loose e)
  | .shelved i => do setCatalog ((← get).catalog.modifyAt i fun _ => e)

/-- Insert what a slot holds. A loose entry that is new to the catalog is shelved there; one that is
merged stays loose. -/
def insertSlot (slot : String) : Work Nat := do
  let (_, e) ← look slot
  let c := (← get).catalog
  let (c', i) := c.insert e
  setCatalog c'
  if (c.find? e).isNone then hold slot (.shelved i)
  return i

def visitTree (tree : Node) : Work Unit := fun d =>
  match Collector.visit tree d.collector with
  | .ok () collector => .ok () { d with collector }
  | .error fault collector => .error (.visit fault) { d with collector }

def perform : Action → Work Reply
  | .place slot record => do
    hold slot (.loose (← checked record.toEntry))
    return .done
  | .build slot draft => do
    hold slot (.loose (← checked draft.build))
    return .done
  | .take slot index => do
    match (← get).positionOf? index with
    | some i => hold slot (.shelved i)
    | none => throw .outOfRange
    return .done
  | .change slot what => do
    let (h, e) ← look slot
    putBack slot (← checked (what.apply e)) h
    return .done
  | .withComment slot comment => do
    let (h, e) ← look slot
    putBack slot (e.withComment comment) h
    return .done
  | .insert slot => do
    return .position (some (← insertSlot slot))
  | .find slot => do
    let (_, e) ← look slot
    return .position ((← get).catalog.find? e)
  | .insertKey key place => do
    let (c, i) := (← get).catalog.insertKey key place
    setCatalog c
    return .position (some i)
  | .inspect slot => do
    return .entry (← look slot).2
  | .visit tree => do
    visitTree tree
    return .done
  | .rename filename => do
    modify fun d => { d with collector := { d.collector with filename } }
    return .done
  | .limit maxDepth => do
    modify fun d => { d with collector := { d.collector with maxDepth } }
    return .done
  | .summary => do
    return .summary ((← get).entries.map (·.msgid))

def run : List Action → Desk → List (Except DeskError Reply × List Entry)
  | [], _ => []
  | a :: rest, d =>
    match perform a d with
    | .ok reply d' => (.ok reply, d'.entries) :: run rest d'
    | .error cause d' => (.error cause, d'.entries) :: run rest d'

end Desk

end Phrasebook
