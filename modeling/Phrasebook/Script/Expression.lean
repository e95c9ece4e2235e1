import Phrasebook.Script.Layout
import Phrasebook.Script.Parser
import Phrasebook.Script.Scanner
import Phrasebook.Script.Template
import Phrasebook.Tree.Node

namespace Phrasebook.Script

/-- An expression, and whether it may be assigned to. -/
structure Term where
  node : Node
  assignable : Bool := false
  deriving Inhabited, Repr

def lexemes (line : Nat) (text : List Char) : Option (List Lexeme) :=
  Scanner.scan line text >>= Layout.arrange

def at? (line : Nat) : Option Int := some line

namespace Expression

open Phrasebook.Script.Parser

def operator : Node := .other none []

section

-- Everything is built from the parser of an operand with its calls, attributes and subscripts.
variable (operand : Parser Term)

def signed : Parser Term := do
  let signs ← many (do
    let l ← line
    symbol "-"
    return l)
  let t ← operand
  return signs.foldr (fun l t => { node := .other (at? l) [operator, t.node] }) t

def chain (operators : List (String × Node)) (part : Parser Term) : Parser Term := do
  let start ← line
  let first ← part
  let more ← many (do
    let op ← accept fun
      | .symbol s => operators.lookup s
      | _ => none
    return (op, (← part).node))
  return more.foldl (fun t m => { node := .binary (at? start) t.node m.1 m.2 }) first

def product : Parser Term :=
  chain [("*", operator), ("/", operator), ("%", operator)] (signed operand)

def sum : Parser Term :=
  chain [("+", .plus none), ("-", operator)] (product operand)

/-- A run of comparisons is one node: the first operand, the operators, the other operands. -/
def comparison : Parser Term := do
  let start ← line
  let first ← sum operand
  let more ← many (do
    accept fun
      | .symbol s => if ["==", "!=", "<", ">"].contains s then some () else none
      | _ => none
    return (← sum operand).node)
  if more.isEmpty then return first
  return { node := .other (at? start) (first.node :: more.map (fun _ => operator) ++ more) }

def negation : Parser Term := do
  let nots ← many (do
    let l ← line
    keyword "not"
    return l)
  let t ← comparison operand
  return nots.foldr (fun l t => { node := .other (at? l) [operator, t.node] }) t

def connected (word : String) (part : Parser Term) : Parser Term := do
  let start ← line
  let first ← part
  let more ← many (keyword word *> part)
  if more.isEmpty then return first
  return { node := .other (at? start) (operator :: first.node :: more.map (·.node)) }

def expression : Parser Term :=
  connected "or" (connected "and" (negation operand))

def item : Parser (Term × Bool) := do
  let start ← line
  if ← next "*" then
    symbol "*"
    let t ← sum operand
    return ({ node := .other (at? start) [t.node], assignable := t.assignable }, true)
  return (← expression operand, false)

def tuple (start : Nat) (items : List (Term × Bool)) : Term :=
  { node := .sequence (at? start) (items.map (·.1.node))
    assignable := items.all (·.1.assignable) }

def items : Parser Term := do
  let start ← line
  match ← commaList (item operand) with
  | ([one], false) => return one.1
  | (several, _) => return tuple start several

inductive Argument where
  | positional (node : Node)
  | starred (node : Node)
  | named (node : Node)
  | spread (node : Node)

def argument : Parser Argument := do
  let start ← line
  match ← peekTwo with
  | .symbol "*" :: _ =>
    symbol "*"
    return .starred (.other (at? start) [(← expression operand).node])
  | .symbol "**" :: _ =>
    symbol "**"
    return .spread (.other (at? start) [(← expression operand).node])
  | .word _ :: .symbol "=" :: _ =>
    let _ ← name
    symbol "="
    return .named (.other (at? start) [(← expression operand).node])
  | _ => return .positional (← expression operand).node

/-- Positional arguments stand before named ones, and no starred one after a spread one. -/
def wellOrdered : List Argument → Bool
  | [] => true
  | .named _ :: rest => rest.all (fun | .positional _ => false | _ => true) && wellOrdered rest
  | .spread _ :: rest =>
    rest.all (fun | .positional _ | .starred _ => false | _ => true) && wellOrdered rest
  | _ :: rest => wellOrdered rest

def arguments : Parser (List Node × List Node) := do
  let (args, _) ← bracketed ")" (argument operand)
  if !wellOrdered args then failure
  return (args.filterMap fun
      | .positional n | .starred n => some n
      | _ => none,
    args.filterMap fun
      | .named n | .spread n => some n
      | _ => none)

def subscript : Parser Node := do
  let start ← line
  match ← commaList (item operand) with
  | ([(one, false)], false) => return one.node
  | (several, _) => return (tuple start several).node

def trailer (start : Nat) : Parser (Term → Term) := do
  let here := at? start
  match ← peek with
  | some (.symbol ".") =>
    symbol "."
    let attr ← name
    return fun t => { node := .attribute here t.node attr, assignable := true }
  | some (.symbol "(") =>
    symbol "("
    let (args, keywords) ← arguments operand
    return fun t => { node := .call here t.node args keywords }
  | some (.symbol "[") =>
    symbol "["
    let index ← subscript operand
    symbol "]"
    return fun t => { node := .other here [t.node, index], assignable := true }
  | _ => failure

def parenthesised : Parser Term := do
  let start ← line
  symbol "("
  match ← bracketed ")" (item operand) with
  | ([(one, starred)], false) => if starred then failure else return one
  | (several, _) => return tuple start several

def listDisplay : Parser Term := do
  let start ← line
  symbol "["
  return tuple start (← bracketed "]" (item operand)).1

def pair : Parser (Node × Node) := do
  if ← next "**" then
    symbol "**"
    return (.blank, (← sum operand).node)
  let key ← expression operand
  symbol ":"
  return (key.node, (← expression operand).node)

def dictDisplay : Parser Term := do
  let start ← line
  symbol "\x7b"
  let (pairs, _) ← bracketed "\x7d" (pair operand)
  return { node := .other (at? start) (pairs.map (·.1) ++ pairs.map (·.2)) }

/-- The source of a slot is read as if it stood in parentheses. -/
def slotValue (s : Slot) : Option Node := do
  let xs ← lexemes s.line ('(' :: s.source ++ [')', '\n'])
  let (t, rest) ← (parenthesised operand).run xs
  if rest.map (·.token) = [.newline] then some t.node else none

mutual

/-- Slots and texts lie on the line where the whole starts, but a format lies on the line of its own
string. -/
def pieceNode (start : Nat) : Piece → Option Node
  | .text s => some (.constant (at? start) (.text (String.ofList s)))
  | .slot s => do
    let value ← slotValue operand s
    return .other (at? start) [value]
  | .formatted s format => do
    let value ← slotValue operand s
    let parts ← formatNodes start s.home format
    return .other (at? start) [value, .joined (at? s.home) parts]

/-- The nodes of a format. A text at its end lies on the line of the string as well. -/
def formatNodes (start home : Nat) : List Piece → Option (List Node)
  | [] => some []
  | [.text s] => some [.constant (at? home) (.text (String.ofList s))]
  | p :: rest => do
    let n ← pieceNode start p
    let more ← formatNodes start home rest
    return n :: more

end

structure Spelling where
  line : Nat
  sigil : Sigil
  body : List Char

def spelling : Parser Spelling := do
  let line ← line
  let (sigil, body) ← accept fun
    | .string sigil body => some (sigil, body)
    | _ => none
  return { line, sigil, body }

def validBytes (s : Spelling) : Bool :=
  s.sigil.bytes && s.body.all (fun c => c.toNat < 128) &&
    (s.sigil.raw || (decodeCodes true s.body).isSome)

/-- Strings in a row are one; a template among them makes the whole a template. -/
def stringNode (start : Nat) (parts : List Spelling) : Option Node :=
  if parts.any (·.sigil.bytes) then
    if parts.all validBytes then some (.constant (at? start) .other) else none
  else do
    let pieces ← parts.mapM fun s => piecesOf s.line s.sigil s.body
    let nodes ← (Template.merge pieces.flatten).mapM (pieceNode operand start)
    if parts.any (·.sigil.template) then return .joined (at? start) nodes
    return nodes.headD (.constant (at? start) (.text ""))

def strings : Parser Term := do
  let start ← line
  let parts ← many1 spelling
  let node ← (stringNode operand start parts : Option Node)
  return { node }

def atom : Parser Term := do
  let here := at? (← line)
  match ← peek with
  | some (.symbol "(") => parenthesised operand
  | some (.symbol "[") => listDisplay operand
  | some (.symbol "\x7b") => dictDisplay operand
  | some (.string _ _) => strings operand
  | some .number =>
    token .number
    return { node := .constant here .other }
  | some (.word w) =>
    if ["True", "False", "None"].contains w then
      keyword w
      return { node := .constant here .other }
    return { node := .name here (← name), assignable := true }
  | _ => failure

end

/-- An operand and what follows it. The bound is on the depth of brackets and slots. -/
def operand : Nat → Parser Term
  | 0 => failure
  | n + 1 => do
    let start ← line
    let t ← atom (operand n)
    let trailers ← many (trailer (operand n) start)
    return trailers.foldl (fun t f => f t) t

end Expression

end Phrasebook.Script
