import Phrasebook.Script.Expression

namespace Phrasebook.Script.Statement

open Phrasebook.Script.Parser Expression

section

-- The parser of an operand, and of the statements of one line or one block.
variable (operand : Parser Term) (statement : Parser (List Node))

def assignment : Parser Node := do
  let start ← line
  let first ← items operand
  let more ← many (symbol "=" *> items operand)
  if more.isEmpty then return .other (at? start) [first.node]
  let all := first :: more
  if all.dropLast.all (·.assignable) then return .other (at? start) (all.map (·.node)) else failure

def returning : Parser Node := do
  let start ← line
  keyword "return"
  let value ← optional (items operand)
  return .other (at? start) (value.toList.map (·.node))

def passing : Parser Node := do
  let start ← line
  keyword "pass"
  return .other (at? start) []

def rename : Parser Unit := do
  let _ ← optional (keyword "as" *> name)

def dottedName : Parser Unit := do
  let _ ← separated "." name

def imported (what : Parser Unit) : Parser Node := do
  let start ← line
  what
  rename
  return .other (at? start) []

def importing : Parser Node := do
  let start ← line
  keyword "import"
  return .other (at? start) (← separated "," (imported dottedName))

def importedNames : Parser (List Node) := do
  let plain := imported (do let _ ← name)
  match ← peek with
  | some (.symbol "*") =>
    let start ← line
    symbol "*"
    return [.other (at? start) []]
  | some (.symbol "(") =>
    symbol "("
    let (names, _) ← commaList plain
    symbol ")"
    return names
  | _ => separated "," plain

def importingFrom : Parser Node := do
  let start ← line
  keyword "from"
  let dots ← many (symbol ".")
  if dots.isEmpty then dottedName else
    let _ ← optional dottedName
  keyword "import"
  return .other (at? start) (← importedNames)

def simple : Parser Node := do
  match ← peek with
  | some (.word "return") => returning operand
  | some (.word "pass") => passing
  | some (.word "import") => importing
  | some (.word "from") => importingFrom
  | _ => assignment operand

def simpleLine : Parser (List Node) := do
  let nodes ← separated ";" (simple operand)
  let _ ← optional (symbol ";")
  token .newline
  return nodes

def suite : Parser (List Node) := do
  symbol ":"
  if (← peek) = some .newline then
    token .newline
    token .indent
    let blocks ← many1 statement
    token .dedent
    return blocks.flatten
  simpleLine operand

def otherwise : Parser (List Node) := do
  let body ← optional (keyword "else" *> suite operand statement)
  return body.getD []

/-- A further test is a conditional of its own, in the place of the other branch. -/
def branches : Nat → Parser (List Node)
  | 0 => otherwise operand statement
  | n + 1 => do
    if (← peek) = some (.word "elif") then
      let start ← line
      keyword "elif"
      let test ← expression operand
      let body ← suite operand statement
      let rest ← branches n
      return [.other (at? start) (test.node :: body ++ rest)]
    otherwise operand statement

def conditional : Parser Node := do
  let start ← line
  keyword "if"
  let test ← expression operand
  let body ← suite operand statement
  let rest ← branches operand statement (← get).length
  return .other (at? start) (test.node :: body ++ rest)

def whileLoop : Parser Node := do
  let start ← line
  keyword "while"
  let test ← expression operand
  let body ← suite operand statement
  return .other (at? start) (test.node :: body ++ (← otherwise operand statement))

def forLoop : Parser Node := do
  let start ← line
  keyword "for"
  let target ← items operand
  if !target.assignable then failure
  keyword "in"
  let values ← items operand
  let body ← suite operand statement
  return .other (at? start)
    (target.node :: values.node :: body ++ (← otherwise operand statement))

structure Parameter where
  mark : Option String := none
  node : Node
  default : Option Node := none

def declared : Parser Node := do
  let start ← line
  let _ ← name
  let type ← optional (symbol ":" *> expression operand)
  return .other (at? start) (type.toList.map (·.node))

def parameter : Parser Parameter := do
  match ← peek with
  | some (.symbol "*") =>
    symbol "*"
    let node ← optional (declared operand)
    return { mark := some "*", node := node.getD .blank }
  | some (.symbol "**") =>
    symbol "**"
    return { mark := some "**", node := ← declared operand }
  | _ =>
    let node ← declared operand
    let value ← optional (symbol "=" *> expression operand)
    return { node, default := value.map (·.node) }

/-- Once a parameter has a default, all that follow by position have one. -/
def defaultsLast : List Parameter → Bool
  | [] => true
  | p :: rest => (p.default.isNone || rest.all (·.default.isSome)) && defaultsLast rest

/-- The parameters in groups: by position, the one that collects the rest of them, by name only,
and the one that collects the rest of those. A bare star must be followed by a name. -/
def parameterGroups (ps : List Parameter) :
    Option (List Parameter × List Node × List Parameter × List Node) := do
  let positional := ps.takeWhile (·.mark.isNone)
  let rest := ps.dropWhile (·.mark.isNone)
  let (gathered, bare, rest) := match rest with
    | ⟨some "*", .blank, _⟩ :: rest => ([], true, rest)
    | ⟨some "*", node, _⟩ :: rest => ([node], false, rest)
    | rest => ([], false, rest)
  let named := rest.takeWhile (·.mark.isNone)
  if bare && named.isEmpty then none
  if !defaultsLast positional then none
  match rest.dropWhile (·.mark.isNone) with
  | [] => some (positional, gathered, named, [])
  | [⟨some "**", node, _⟩] => some (positional, gathered, named, [node])
  | _ => none

/-- All parameters make one node without a line, with the defaults by position at its end. -/
def parametersNode (ps : List Parameter) : Option Node := do
  let (positional, gathered, named, spread) ← parameterGroups ps
  return .other none (positional.map (·.node) ++ gathered ++ named.map (·.node) ++
    named.map (·.default.getD .blank) ++ spread ++ positional.filterMap (·.default))

def function (decorators : List Node) : Parser Node := do
  let start ← line
  keyword "def"
  let _ ← name
  symbol "("
  let (ps, _) ← bracketed ")" (parameter operand)
  let parameters ← (parametersNode ps : Option Node)
  let result ← optional (symbol "->" *> expression operand)
  let body ← suite operand statement
  return .other (at? start) (parameters :: body ++ decorators ++ result.toList.map (·.node))

def classDefinition (decorators : List Node) : Parser Node := do
  let start ← line
  keyword "class"
  let _ ← name
  let (bases, keywords) ← if ← next "(" then symbol "(" *> arguments operand else pure ([], [])
  let body ← suite operand statement
  return .other (at? start) (bases ++ keywords ++ body ++ decorators)

def definition (decorators : List Node) : Parser Node := do
  if (← peek) = some (.word "class") then classDefinition operand statement decorators
  else function operand statement decorators

def decorator : Parser Node := do
  symbol "@"
  let t ← expression operand
  token .newline
  return t.node

def decorated : Parser Node := do
  let decorators ← many1 (decorator operand)
  definition operand statement decorators

def compound : Parser Node := do
  match ← peek with
  | some (.word "if") => conditional operand statement
  | some (.word "while") => whileLoop operand statement
  | some (.word "for") => forLoop operand statement
  | some (.word "def") => function operand statement []
  | some (.word "class") => classDefinition operand statement []
  | some (.symbol "@") => decorated operand statement
  | _ => failure

end

def openers : List Token :=
  [.word "if", .word "while", .word "for", .word "def", .word "class", .symbol "@"]

def statement (operand : Parser Term) : Nat → Parser (List Node)
  | 0 => failure
  | n + 1 => do
    match ← peek with
    | some t =>
      if openers.contains t then return [← compound operand (statement operand n)]
      simpleLine operand
    | none => failure

end Phrasebook.Script.Statement

namespace Phrasebook.Script

open Text

def endLastLine (s : List Char) : List Char :=
  if s.getLast? = some '\n' then s else s ++ ['\n']

inductive Error where
  | nul
  | malformed
  deriving DecidableEq, Repr

def Error.message : Error → Option String
  | .nul => some "source code string cannot contain null bytes"
  | .malformed => none

/-- Brackets, slots and blocks cannot be nested deeper than there are characters. -/
def parse? (text : List Char) : Option Node := do
  let xs ← lexemes 1 text
  let depth := text.length + 1
  let statement := Statement.statement (Expression.operand depth) depth
  let (body, rest) ← (Parser.many statement).run xs
  if rest.isEmpty then some (.other none body.flatten) else none

/-- The syntax tree of a script of the small language that is read here: expressions, assignments,
imports, definitions, `if`, `for` and `while`. Names are taken as they are written, and whatever
goes beyond this language is malformed. -/
def read (source : String) : Except Error Node :=
  if source.toList.contains '\x00' then .error .nul
  else match parse? (endLastLine (unifyLines source.toList)) with
    | some tree => .ok tree
    | none => .error .malformed

end Phrasebook.Script
