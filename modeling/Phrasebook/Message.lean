import Phrasebook.Tree.Node

namespace Phrasebook

inductive Kind where
  | normal
  | context
  | plural
  deriving DecidableEq, Repr

namespace Kind

def all : List Kind := [.normal, .context, .plural]

def label : Kind → String
  | .normal => "normal"
  | .context => "msgctxt"
  | .plural => "plural"

def ofLabel? (s : String) : Option Kind :=
  all.find? fun k => k.label = s

end Kind

/-- The texts of one marked message, before control characters are escaped. -/
structure Message where
  kind : Kind
  msgid : String
  msgidPlural : Option String := none
  msgctxt : Option String := none
  comment : Option String := none
  deriving DecidableEq, Repr

inductive Marker where
  | simple
  | context
  | plural
  deriving DecidableEq, Repr

namespace Marker

def label : Marker → String
  | .simple => "simple"
  | .context => "context"
  | .plural => "plural"

def names : List (String × Marker) :=
  [("N_", .simple), ("_", .simple), ("n_", .plural), ("p_", .context), ("pgettext", .context),
    ("s_", .simple)]

def ofName? (name : String) : Option Marker := names.lookup name

def textAt (args : List Node) (i : Nat) : Option String :=
  args[i]? >>= Node.text?

/-- A message may be wrapped in a tuple or list of its own. -/
def unwrap : Node → Node
  | .sequence _ [item] => item
  | n => n

/-- The message of a call with these arguments. The count of a plural call is never looked at. -/
def read : Marker → List Node → Option Message
  | .simple, args => do
    let msgid ← args[0]? >>= fun first => (unwrap first).text?
    return { kind := .normal, msgid, comment := textAt args 1 }
  | .context, args => do
    let msgctxt ← textAt args 0
    let msgid ← textAt args 1
    return { kind := .context, msgid, msgctxt := some msgctxt, comment := textAt args 2 }
  | .plural, args => do
    let singular ← textAt args 0
    let plural ← textAt args 1
    return { kind := .plural, msgid := singular, msgidPlural := some plural,
             comment := textAt args 3 }

end Marker

namespace Node

def calleeName : Node → Option String
  | .name _ id => some id
  | .attribute _ _ attr => some attr
  | _ => none

def message? (func : Node) (args : List Node) : Option Message := do
  let name ← func.calleeName
  let marker ← Marker.ofName? name
  marker.read args

end Node

end Phrasebook
