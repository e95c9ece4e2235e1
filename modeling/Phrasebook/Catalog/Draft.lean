import Phrasebook.Catalog.Entry
import Phrasebook.Text.Quoted

namespace Phrasebook

inductive Field where
  | text (s : String)
  | absent
  | number
  | flag
  | row (items : List Field)
  deriving Inhabited, Repr

/-- An entry as callers spell it out, before its fields are checked. -/
structure Draft where
  kind : String
  msgid : Field
  msgctxt : Field
  filename : String
  line : Int
  comment : Field

inductive DraftError where
  | unknownKind (kind : String)
  | tooFewTexts (count : Nat)
  | tooManyTexts
  | notText (sort : String)
  deriving DecidableEq, Repr

namespace DraftError

def message : DraftError → String
  | .unknownKind kind => Text.Quoted.quote kind ++ " is not a valid EntryKind"
  | .tooFewTexts count => s!"not enough values to unpack (expected 2, got {count})"
  | .tooManyTexts => "too many values to unpack (expected 2)"
  | .notText sort => s!"'{sort}' object has no attribute 'replace'"

end DraftError

namespace Field

def sort : Field → String
  | .text _ => "str"
  | .absent => "NoneType"
  | .number => "int"
  | .flag => "bool"
  | .row _ => "list"

def toText : Field → Except DraftError String
  | .text s => .ok s
  | f => .error (.notText f.sort)

def toText? : Field → Except DraftError (Option String)
  | .absent => .ok none
  | f => some <$> f.toText

end Field

namespace Draft

def readKind (s : String) : Except DraftError Kind :=
  match Kind.ofLabel? s with
  | some k => .ok k
  | none => .error (.unknownKind s)

/-- The plural text is asked for before the singular one. -/
def readTexts : Kind → Field → Except DraftError (String × Option String)
  | .plural, .row [singular, plural] => do
    let plural ← plural.toText
    let singular ← singular.toText
    return (singular, some plural)
  | .plural, .row items =>
    .error (if items.length < 2 then .tooFewTexts items.length else .tooManyTexts)
  | _, .row _ => .error (.notText "tuple")
  | _, f => do return (← f.toText, none)

def build (d : Draft) : Except DraftError Entry := do
  let kind ← readKind d.kind
  let (msgid, msgidPlural) ← readTexts kind d.msgid
  let msgctxt ← d.msgctxt.toText?
  let comment ← d.comment.toText?
  return Entry.ofMessage { kind, msgid, msgidPlural, msgctxt, comment }
    (reference d.filename d.line)

end Draft

/-- An entry written out field by field, to be taken over as it is. -/
structure Record where
  kind : String
  msgid : String
  msgidPlural : Option String := none
  msgctxt : Option String := none
  references : List String := []
  comment : Option String := none

def Record.toEntry (r : Record) : Except DraftError Entry := do
  let kind ← Draft.readKind r.kind
  return { kind, msgid := r.msgid, msgidPlural := r.msgidPlural, msgctxt := r.msgctxt,
           references := r.references, comment := r.comment }

end Phrasebook
