import Phrasebook.Script.Token

namespace Phrasebook.Script

abbrev Parser := StateT (List Lexeme) Option

namespace Parser

variable {α β : Type}

def line : Parser Nat := do
  match ← get with
  | x :: _ => return x.line
  | [] => failure

def peek : Parser (Option Token) := do
  return (← get).head?.map (·.token)

def peekTwo : Parser (List Token) := do
  return ((← get).take 2).map (·.token)

def accept (f : Token → Option α) : Parser α := do
  match ← get with
  | x :: rest =>
    let a ← (f x.token : Option α)
    set rest
    return a
  | [] => failure

def token (t : Token) : Parser Unit :=
  accept fun u => if u = t then some () else none

def symbol (s : String) : Parser Unit := token (.symbol s)

def keyword (s : String) : Parser Unit := token (.word s)

def reserved : List String :=
  ["False", "None", "True", "and", "as", "assert", "async", "await", "break", "class", "continue",
    "def", "del", "elif", "else", "except", "finally", "for", "from", "global", "if", "import",
    "in", "is", "lambda", "nonlocal", "not", "or", "pass", "raise", "return", "try", "while",
    "with", "yield"]

def name : Parser String :=
  accept fun
    | .word s => if reserved.contains s then none else some s
    | _ => none

def next (s : String) : Parser Bool := do
  return (← peek) = some (.symbol s)

/-- As long as it succeeds, but no more often than there are lexemes in the bound. -/
def within (p : Parser α) : List Lexeme → Parser (List α)
  | [] => pure []
  | _ :: bound => (do
      let a ← p
      let more ← within p bound
      return a :: more) <|> pure []

/-- As often as it succeeds: each time takes a lexeme, so that what is left is a bound. -/
def many (p : Parser α) : Parser (List α) := do
  within p (← get)

def many1 (p : Parser α) : Parser (List α) := do
  return (← p) :: (← many p)

def separated (s : String) (p : Parser α) : Parser (List α) := do
  return (← p) :: (← many (symbol s *> p))

/-- As `separated` by commas, with a comma allowed at the end; the flag tells whether there was
one. -/
def commaList (p : Parser α) : Parser (List α × Bool) := do
  let items ← separated "," p
  let trailing ← optional (symbol ",")
  return (items, trailing.isSome)

def bracketed (closer : String) (p : Parser α) : Parser (List α × Bool) := do
  let items ← if ← next closer then pure ([], false) else commaList p
  symbol closer
  return items

end Parser

end Phrasebook.Script
