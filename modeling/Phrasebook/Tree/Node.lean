namespace Phrasebook

/-- The value of a literal. Only texts are ever looked at. -/
inductive Constant where
  | text (s : String)
  | other
  deriving DecidableEq, Repr

/-- A syntax tree, down to what the search for messages can tell apart. Every node but `blank` may
know its line; `blank` stands where there is nothing to visit, and keeps its place in a list. -/
inductive Node where
  | blank
  | plus (line : Option Int)
  | constant (line : Option Int) (value : Constant)
  | name (line : Option Int) (id : String)
  | attribute (line : Option Int) (value : Node) (attr : String)
  | joined (line : Option Int) (values : List Node)
  | binary (line : Option Int) (left op right : Node)
  | sequence (line : Option Int) (items : List Node)
  | call (line : Option Int) (func : Node) (args keywords : List Node)
  | other (line : Option Int) (children : List Node)
  deriving Inhabited, Repr

namespace Node

def line : Node → Option Int
  | .blank => none
  | .plus line => line
  | .constant line _ => line
  | .name line _ => line
  | .attribute line _ _ => line
  | .joined line _ => line
  | .binary line _ _ _ => line
  | .sequence line _ => line
  | .call line _ _ _ => line
  | .other line _ => line

mutual

/-- The text a node stands for: a literal, a template without slots, or a sum of such. -/
def text? : Node → Option String
  | .constant _ (.text s) => some s
  | .joined _ values => texts? values
  | .binary _ left (.plus _) right => do
    let l ← text? left
    let r ← text? right
    return l ++ r
  | _ => none

def texts? : List Node → Option String
  | [] => some ""
  | n :: ns => do
    let s ← text? n
    let t ← texts? ns
    return s ++ t

end

end Node

end Phrasebook
