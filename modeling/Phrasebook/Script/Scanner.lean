import Phrasebook.Script.Number
import Phrasebook.Script.Token
import Phrasebook.Text.Identifier

namespace Phrasebook.Script

/-- A margin under measurement. A backslash at the end of a line of blanks fixes the margin, unless
it stands in the first column. -/
structure Ruler where
  margin : Margin := {}
  fixed : Option Nat := none
  deriving DecidableEq, Repr

namespace Ruler

def blank (r : Ruler) : Ruler :=
  { r with margin := ⟨r.margin.column + 1, r.margin.narrow + 1⟩ }

def tab (r : Ruler) : Ruler :=
  { r with margin := ⟨(r.margin.column / 8 + 1) * 8, r.margin.narrow + 1⟩ }

def formFeed (r : Ruler) : Ruler := { r with margin := {} }

def backslash (r : Ruler) : Ruler :=
  { r with fixed := match r.fixed with
      | none | some 0 => some r.margin.column
      | some n => some n }

def reading (r : Ruler) : Margin :=
  match r.fixed with
  | none | some 0 => r.margin
  | some n => ⟨n, n⟩

end Ruler

structure OpenString where
  sigil : Sigil
  quote : Char
  long : Bool
  line : Nat
  body : List Char := []
  escaped : Bool := false
  closing : Nat := 0
  deriving Repr

/-- What the scanner is in the middle of. Words are kept latest character first. -/
inductive Mode where
  | margin (r : Ruler)
  | between
  | comment
  | backslash (after : Option Ruler)
  | word (letters : List Char)
  | number (letters : List Char)
  | symbol (first : Char)
  | quoted (sigil : Sigil) (quote : Char)
  | quotedTwice (sigil : Sigil) (quote : Char)
  | string (s : OpenString)
  deriving Repr

structure Scanner where
  line : Nat
  mode : Mode := .margin {}
  output : List Lexeme := []
  deriving Repr

namespace Scanner

def isSpace (c : Char) : Bool := c = ' ' || c = '\t' || c = '\x0c'

def isQuote (c : Char) : Bool := c = '\'' || c = '"'

def singles : List Char :=
  ['(', ')', '[', ']', '\x7b', '\x7d', ',', ':', ';', '.', '+', '/', '%', '<', '>', '@']

def doubles : List (Char × Char) := [('=', '='), ('-', '>'), ('*', '*'), ('!', '=')]

def emitAt (line : Nat) (t : Token) (s : Scanner) : Scanner :=
  { s with output := ⟨line, t⟩ :: s.output, mode := .between }

def emit (t : Token) (s : Scanner) : Scanner := s.emitAt s.line t

def enter (mode : Mode) (s : Scanner) : Scanner := { s with mode }

def nextLine (mode : Mode) (s : Scanner) : Scanner := { s with line := s.line + 1, mode }

def begin (s : Scanner) (c : Char) : Option Scanner :=
  if isSpace c then some (s.enter .between)
  else if c = '\n' then some ((s.emit .newline).nextLine (.margin {}))
  else if c = '#' then some (s.enter .comment)
  else if c = '\\' then some (s.enter (.backslash none))
  else if isQuote c then some (s.enter (.quoted {} c))
  else if c.isDigit then some (s.enter (.number [c]))
  else if Text.Identifier.isWordChar c then some (s.enter (.word [c]))
  else if singles.contains c then some (s.emit (.symbol c.toString))
  else if (doubles.lookup c).isSome then some (s.enter (.symbol c))
  else none

/-- Read a character at the margin. A line of blanks and comments leaves no trace of its margin. -/
def measure (s : Scanner) (r : Ruler) (c : Char) : Option Scanner :=
  match c with
  | ' ' => some (s.enter (.margin r.blank))
  | '\t' => some (s.enter (.margin r.tab))
  | '\x0c' => some (s.enter (.margin r.formFeed))
  | '\\' => some (s.enter (.backslash (some r.backslash)))
  | '\n' => s.begin c
  | '#' => s.begin c
  | _ => (s.emit (.margin r.reading)).begin c

def finishWord (s : Scanner) (letters : List Char) : Option Scanner :=
  if Text.Identifier.isIdentifier letters then some (s.emit (.word (String.ofList letters)))
  else none

def finishNumber (s : Scanner) (letters : List Char) : Option Scanner := do
  let rest ← Number.split letters
  if rest.isEmpty then some (s.emit .number) else (s.emit .number).finishWord rest

def finishSymbol (s : Scanner) (first c : Char) : Option Scanner :=
  if doubles.contains (first, c) then some (s.emit (.symbol (String.ofList [first, c])))
  else if first = '!' then none
  else (s.emit (.symbol first.toString)).begin c

/-- Read a character inside a string: a short string ends at its quote and may not hold a line
break; a long one ends at three quotes in a row. -/
def readString (s : Scanner) (o : OpenString) (c : Char) : Option Scanner :=
  let enter (o : OpenString) : Scanner :=
    { s with line := if c = '\n' then s.line + 1 else s.line, mode := .string o }
  if o.escaped then some (enter { o with body := c :: o.body, escaped := false })
  else if c = o.quote then
    if !o.long then some (s.emitAt o.line (.string o.sigil o.body.reverse))
    else if o.closing = 2 then
      some (s.emitAt o.line (.string o.sigil (o.body.drop 2).reverse))
    else some (enter { o with body := c :: o.body, closing := o.closing + 1 })
  else if c = '\n' && !o.long then none
  else some (enter { o with body := c :: o.body, escaped := c = '\\', closing := 0 })

def step (s : Scanner) (c : Char) : Option Scanner :=
  match s.mode with
  | .margin r => s.measure r c
  | .between => s.begin c
  | .comment => if c = '\n' then s.begin c else some s
  | .backslash after =>
    if c = '\n' then some (s.nextLine (match after with
      | some r => .margin r
      | none => .between))
    else none
  | .word letters =>
    if Text.Identifier.isWordChar c then some (s.enter (.word (c :: letters)))
    else match isQuote c, Sigil.ofLetters? letters.reverse with
      | true, some sigil => some (s.enter (.quoted sigil c))
      | _, _ => s.finishWord letters.reverse >>= (·.begin c)
  | .number letters =>
    if Text.Identifier.isWordChar c then some (s.enter (.number (c :: letters)))
    else if c = '.' then none
    else s.finishNumber letters.reverse >>= (·.begin c)
  | .symbol first => s.finishSymbol first c
  | .quoted sigil quote =>
    if c = quote then some (s.enter (.quotedTwice sigil quote))
    else s.readString { sigil, quote, long := false, line := s.line } c
  | .quotedTwice sigil quote =>
    if c = quote then some (s.enter (.string { sigil, quote, long := true, line := s.line }))
    else (s.emit (.string sigil [])).begin c
  | .string o => s.readString o c

def finish (s : Scanner) : Option (List Lexeme) :=
  match s.mode with
  | .margin ⟨_, none⟩ => some s.output.reverse
  | _ => none

def scan (line : Nat) (text : List Char) : Option (List Lexeme) :=
  text.foldlM step { line } >>= finish

end Scanner

end Phrasebook.Script
