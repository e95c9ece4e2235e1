import Phrasebook.Catalog.Basic
import Phrasebook.Message

namespace Phrasebook

inductive Fault where
  | tooDeep (filename : String) (line : Int) (limit : Int)
  | callWithoutLine
  deriving DecidableEq, Repr

namespace Fault

def message : Fault → String
  | .tooDeep filename line limit =>
    s!"{filename}:{line}: syntax tree nested deeper than {limit} node levels"
  | .callWithoutLine => "'Call' object has no attribute 'lineno'"

end Fault

/-- What the entries of a visit can be stored in, one by one. -/
class EntryStore (σ : Type) where
  store : σ → Entry → σ

instance : EntryStore Catalog := ⟨Catalog.store⟩

/-- A visit under way: the file, the limit on nesting, the present depth, and what is stored so far,
in a catalog unless something else is asked for. -/
structure Collector (σ : Type := Catalog) where
  filename : String
  maxDepth : Option Int := none
  catalog : σ
  depth : Nat := 0

/-- A visit changes the collector also when it is stopped. -/
abbrev Visit (σ : Type) := EStateM Fault (Collector σ)

namespace Collector

def start (filename : String) (seeds : List String) (maxDepth : Option Int) : Collector :=
  { filename, maxDepth, catalog := Catalog.ofSeeds seeds }

/-- The entry for a call, which needs a line as soon as the call marks a message. -/
def entryFor (filename : String) (line : Option Int) (func : Node) (args : List Node) :
    Except Fault (Option Entry) :=
  match func.message? args, line with
  | none, _ => .ok none
  | some _, none => .error .callWithoutLine
  | some m, some line => .ok (some (Entry.ofMessage m (reference filename line)))

variable {σ : Type}

def enter (c : Collector σ) : Collector σ := { c with depth := c.depth + 1 }

def leave (c : Collector σ) : Collector σ := { c with depth := c.depth - 1 }

def exceeded (c : Collector σ) : Option Int :=
  c.maxDepth.filter fun limit => limit < c.depth

/-- Run `body` one level further down. The limit is checked first, and the level is left again
whatever happens. -/
def deeper (line : Option Int) (body : Visit σ Unit) : Visit σ Unit := fun c =>
  let inside := c.enter
  match inside.exceeded with
  | some limit => .error (.tooDeep c.filename (line.getD 0) limit) inside.leave
  | none =>
    match body inside with
    | .ok () c' => .ok () c'.leave
    | .error fault c' => .error fault c'.leave

variable [EntryStore σ]

def noteCall (line : Option Int) (func : Node) (args : List Node) : Visit σ Unit := fun c =>
  match entryFor c.filename line func args with
  | .error fault => .error fault c
  | .ok none => .ok () c
  | .ok (some entry) => .ok () { c with catalog := EntryStore.store c.catalog entry }

mutual

/-- Visit a tree depth first: of a call, the callee comes first, then the call itself, then its
arguments and keywords. -/
def visit : Node → Visit σ Unit
  | .blank => pure ()
  | .plus line => deeper line (pure ())
  | .constant line _ => deeper line (pure ())
  | .name line _ => deeper line (pure ())
  | .attribute line value _ => deeper line (visit value)
  | .joined line values => deeper line (visitAll values)
  | .binary line left op right => deeper line do
    visit left
    visit op
    visit right
  | .sequence line items => deeper line (visitAll items)
  | .call line func args keywords => deeper line do
    visit func
    noteCall line func args
    visitAll args
    visitAll keywords
  | .other line children => deeper line (visitAll children)

def visitAll : List Node → Visit σ Unit
  | [] => pure ()
  | n :: ns => do
    visit n
    visitAll ns

end

end Collector

end Phrasebook
