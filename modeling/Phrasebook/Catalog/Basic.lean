import Phrasebook.Catalog.Entry

namespace Phrasebook

/-- Entries in the order in which their messages were first seen. The second field remembers where
the entries of bare keys stand. -/
structure Catalog where
  entries : List Entry := []
  keys : List (String × Nat) := []
  deriving DecidableEq, Repr

namespace Catalog

def empty : Catalog := {}

def addSeed (c : Catalog) (seed : String) : Catalog :=
  if (c.keys.lookup seed).isSome then c
  else
    { entries := c.entries ++ [Entry.plain seed]
      keys := c.keys ++ [(seed, c.entries.length)] }

def ofSeeds (seeds : List String) : Catalog := seeds.foldl addSeed empty

def find? (c : Catalog) (candidate : Entry) : Option Nat :=
  c.entries.findIdx? fun e => e.sameMessage candidate

def modifyAt (c : Catalog) (i : Nat) (f : Entry → Entry) : Catalog :=
  { c with entries := c.entries.modify i f }

/-- Append the candidate, or fold it into the entry for its message; the position of that entry
comes back as well. -/
def insert (c : Catalog) (candidate : Entry) : Catalog × Nat :=
  match c.find? candidate with
  | some i => (c.modifyAt i (·.absorb candidate), i)
  | none => ({ c with entries := c.entries ++ [candidate] }, c.entries.length)

def store (c : Catalog) (candidate : Entry) : Catalog := (c.insert candidate).1

/-- The position of the entry for a bare key, which is made at first sight. -/
def locate (c : Catalog) (key : String) : Catalog × Nat :=
  match c.keys.lookup key with
  | some i => (c, i)
  | none =>
    match c.find? (Entry.plain key) with
    | some i => ({ c with keys := c.keys ++ [(key, i)] }, i)
    | none =>
      ({ entries := c.entries ++ [Entry.plain key]
         keys := c.keys ++ [(key, c.entries.length)] }, c.entries.length)

def insertKey (c : Catalog) (key place : String) : Catalog × Nat :=
  let (c, i) := c.locate key
  (c.modifyAt i fun e => { e with references := e.references ++ [place] }, i)

end Catalog

end Phrasebook
