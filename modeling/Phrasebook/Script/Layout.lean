import Phrasebook.Script.Token

namespace Phrasebook.Script

/-- Line structure under construction: the open brackets and the margins of the open blocks, both
innermost first, and whether the present line is still empty. -/
structure Layout where
  brackets : List Char := []
  margins : List Margin := []
  fresh : Bool := true
  output : List Lexeme := []
  deriving Repr

namespace Layout

def maxBrackets : Nat := 200

def maxBlocks : Nat := 99

def emit (l : Layout) (x : Lexeme) : Layout :=
  { l with output := x :: l.output, fresh := x.token = .newline }

def current (l : Layout) : Margin := l.margins.headD {}

def closeBlocks (line : Nat) (m : Margin) (l : Layout) : Layout :=
  let outer := l.margins.dropWhile fun b => m.column < b.column
  let closed := l.margins.length - outer.length
  { l with
    margins := outer
    output := List.replicate closed ⟨line, .dedent⟩ ++ l.output }

/-- A line opens a block, continues one, or ends some; the two measures of a margin must never tell
different stories. -/
def indentTo (l : Layout) (line : Nat) (m : Margin) : Option Layout :=
  if l.current.column < m.column then
    if l.current.narrow < m.narrow && l.margins.length < maxBlocks then
      some ({ l with margins := m :: l.margins }.emit ⟨line, .indent⟩)
    else none
  else
    let l := l.closeBlocks line m
    if l.current = m then some l else none

def mark (l : Layout) (c : Char) (x : Lexeme) : Option Layout :=
  match closerOf? c, l.brackets with
  | some closer, stack =>
    if stack.length < maxBrackets then some ({ l with brackets := closer :: stack }.emit x)
    else none
  | none, closer :: rest =>
    if c = closer then some ({ l with brackets := rest }.emit x)
    else if isCloser c then none
    else some (l.emit x)
  | none, [] => if isCloser c then none else some (l.emit x)

def step (l : Layout) (x : Lexeme) : Option Layout :=
  match x.token with
  | .margin m => if l.brackets.isEmpty then l.indentTo x.line m else some l
  | .newline => if l.brackets.isEmpty && !l.fresh then some (l.emit x) else some l
  | .symbol s =>
    match s.toList with
    | [c] => l.mark c x
    | _ => some (l.emit x)
  | _ => some (l.emit x)

def finish (l : Layout) : Option (List Lexeme) :=
  if l.brackets.isEmpty then some (l.closeBlocks 0 { column := 0 }).output.reverse else none

def arrange (xs : List Lexeme) : Option (List Lexeme) :=
  xs.foldlM step {} >>= finish

end Layout

end Phrasebook.Script
