namespace Phrasebook.Script

/-- The letters before an opening quote. -/
structure Sigil where
  raw : Bool := false
  bytes : Bool := false
  template : Bool := false
  deriving DecidableEq, Repr

namespace Sigil

/-- The spellings in lower case. -/
def spellings : List (String × Sigil) :=
  [("u", {}), ("r", { raw := true }), ("b", { bytes := true }), ("f", { template := true }),
    ("br", { raw := true, bytes := true }), ("rb", { raw := true, bytes := true }),
    ("fr", { raw := true, template := true }), ("rf", { raw := true, template := true })]

def ofLetters? (letters : List Char) : Option Sigil :=
  spellings.lookup (String.ofList (letters.map Char.toLower))

end Sigil

/-- The opening brackets with the closing ones. -/
def brackets : List (Char × Char) := [('(', ')'), ('[', ']'), ('\x7b', '\x7d')]

def closerOf? (c : Char) : Option Char := brackets.lookup c

def isCloser (c : Char) : Bool := brackets.any (·.2 = c)

/-- The blank space before the first word of a line, measured twice: with tab stops at every eighth
column, and with a tab as wide as a blank. Two lines can be compared only if both measures agree. -/
structure Margin where
  column : Nat := 0
  narrow : Nat := 0
  deriving DecidableEq, Repr

inductive Token where
  | word (text : String)
  | number
  | string (sigil : Sigil) (body : List Char)
  | symbol (text : String)
  | margin (m : Margin)
  | newline
  | indent
  | dedent
  deriving DecidableEq, Repr

/-- A token and the line where it starts. -/
structure Lexeme where
  line : Nat
  token : Token
  deriving DecidableEq, Repr

end Phrasebook.Script
