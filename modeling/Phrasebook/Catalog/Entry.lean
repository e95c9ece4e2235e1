import Phrasebook.Message
import Phrasebook.Text.Basic

namespace Phrasebook

structure Entry where
  kind : Kind
  msgid : String
  msgidPlural : Option String := none
  msgctxt : Option String := none
  references : List String := []
  comment : Option String := none
  deriving DecidableEq, Repr

def reference (filename : String) (line : Int) : String :=
  filename ++ ":" ++ toString line

namespace Entry

def isPlural (e : Entry) : Bool := e.msgidPlural.isSome

def hasContext (e : Entry) : Bool := e.msgctxt.isSome

def key (e : Entry) : Kind × String × Option String :=
  (e.kind, e.msgid, e.msgctxt)

def sameMessage (a b : Entry) : Bool := a.key = b.key

/-- A non-empty addition goes on a line of its own below what is already there. -/
def joinComments (old added : Option String) : Option String :=
  if added.getD "" = "" then old
  else if old.getD "" = "" then added
  else some (old.getD "" ++ "\n" ++ added.getD "")

def withComment (e : Entry) (added : Option String) : Entry :=
  { e with comment := joinComments e.comment added }

/-- A comment is kept out when its text already stands in the present one. -/
def mergeComments (old added : Option String) : Option String :=
  if old.getD "" ≠ "" ∧ added.getD "" ≠ "" ∧ Text.contains (old.getD "") (added.getD "") then old
  else joinComments old added

def absorb (e other : Entry) : Entry :=
  { e with
    references := e.references ++ other.references
    comment := mergeComments e.comment other.comment }

def plain (msgid : String) : Entry := { kind := .normal, msgid }

/-- The entry of one use of a message: every text is escaped, and an empty comment is none. -/
def ofMessage (m : Message) (place : String) : Entry :=
  { kind := m.kind
    msgid := Text.escape m.msgid
    msgidPlural := m.msgidPlural.map Text.escape
    msgctxt := m.msgctxt.map Text.escape
    references := [place]
    comment := joinComments none (m.comment.map Text.escape) }

end Entry

end Phrasebook
