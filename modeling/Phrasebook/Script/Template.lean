import Phrasebook.Script.Backslash
import Phrasebook.Script.Token

namespace Phrasebook.Script

/-- Where a slot stands: the line of the string it is part of, its own line, and the source of the
expression in it. -/
structure Slot where
  home : Nat
  line : Nat
  source : List Char
  deriving Repr

/-- A template is literal text with slots, and the format of a slot is a template again. -/
inductive Piece where
  | text (s : List Char)
  | slot (s : Slot)
  | formatted (s : Slot) (format : List Piece)
  deriving Inhabited, Repr

namespace Template

inductive Stop where
  | slot
  | ending
  | doubled
  deriving DecidableEq, Repr

def isBrace (c : Char) : Bool := c = '\x7b' || c = '\x7d'

/-- What a brace in literal text means. Braces are doubled only outside slots. -/
def brace (outermost : Bool) (c : Char) (cs : List Char) : Option (List Char × Stop × List Char) :=
  if outermost && cs.head? = some c then some ([c], .doubled, cs.tail)
  else if c = '\x7b' then some ([], .slot, cs)
  else if outermost then none
  else some ([], .ending, c :: cs)

/-- Split off literal text as it is written. The flag tells that a backslash has just been read; it
protects every character but a brace. -/
def splitText (raw outermost : Bool) : Bool → List Char → Option (List Char × Stop × List Char)
  | _, [] => some ([], .ending, [])
  | protect, c :: cs =>
    if isBrace c then brace outermost c cs
    else
      (splitText raw outermost (!raw && !protect && c = '\\') cs).map fun (s, r) => (c :: s, r)

inductive SlotMode where
  | code
  | short (quote : Char)
  | long (quote : Char)
  deriving DecidableEq, Repr

inductive Advance where
  | refuse
  | stop
  | past (further : Nat) (mode : SlotMode) (brackets : List Char)

def twoMore (c : Char) (cs : List Char) : Bool := [c, c].isPrefixOf cs

/-- The source of a slot ends outside strings and brackets, before a conversion, a format, an equals
sign or the closing brace. Comparisons that hold an equals sign do not end it. -/
def advance (mode : SlotMode) (brackets : List Char) (c : Char) (cs : List Char) : Advance :=
  if c = '\\' then .refuse
  else match mode with
    | .short q => .past 0 (if c = q then .code else mode) brackets
    | .long q => if c = q && twoMore c cs then .past 2 .code brackets else .past 0 mode brackets
    | .code =>
      if c = '\'' || c = '"' then
        if twoMore c cs then .past 2 (.long c) brackets else .past 0 (.short c) brackets
      else if c = '#' then .refuse
      else match closerOf? c, brackets with
        | some closer, _ => .past 0 .code (closer :: brackets)
        | none, closer :: outer =>
          if c = closer then .past 0 .code outer
          else if isCloser c then .refuse
          else .past 0 .code brackets
        | none, [] =>
          if ['!', '=', '<', '>'].contains c && cs.head? = some '=' then .past 1 .code []
          else if ['!', ':', '=', '\x7d'].contains c then .stop
          else if isCloser c then .refuse
          else .past 0 .code []

/-- Split off the source of a slot, after a number of characters that belong to it in any case. -/
def splitSource : Nat → SlotMode → List Char → List Char → Option (List Char × List Char)
  | _, _, _, [] => none
  | n + 1, mode, brackets, c :: cs =>
    (splitSource n mode brackets cs).map fun (s, r) => (c :: s, r)
  | 0, mode, brackets, c :: cs =>
    match advance mode brackets c cs with
    | .refuse => none
    | .stop => some ([], c :: cs)
    | .past n mode brackets => (splitSource n mode brackets cs).map fun (s, r) => (c :: s, r)

def isBlank (c : Char) : Bool := c = ' ' || c = '\t' || c = '\n' || c = '\x0c'

def splitEcho (source : List Char) : List Char → List Char × List Char
  | '=' :: rest =>
    let blanks := rest.takeWhile fun c => isBlank c || c = '\r' || c = '\x0b'
    (source ++ '=' :: blanks, rest.drop blanks.length)
  | rest => ([], rest)

def dropConversion : List Char → Option (List Char)
  | '!' :: c :: rest => if c = 's' || c = 'r' || c = 'a' then some rest else none
  | '!' :: [] => none
  | rest => some rest

def merge : List Piece → List Piece
  | [] => []
  | .text s :: rest =>
    match merge rest with
    | .text t :: more => .text (s ++ t) :: more
    | more => if s.isEmpty then more else .text s :: more
  | p :: rest => p :: merge rest

variable (raw : Bool) (home : Nat) (lineOf : List Char → Nat)

def decode (s : List Char) : Option Piece :=
  Piece.text <$> if raw then some s else decodeCodes false s

/-- The pieces up to the end of a template or of the format that it is. Slots stand in slots only
once. The line of a place is a function of what follows it. -/
def pieces : Nat → Nat → List Char → Option (List Piece × List Char)
  | 0, _, _ => none
  | n + 1, depth, s => do
    let (text, stop, rest) ← splitText raw (depth = 0) false s
    let text ← decode raw text
    match stop with
    | .ending => return ([text], rest)
    | .doubled =>
      let (more, rest) ← pieces n depth rest
      return (text :: more, rest)
    | .slot =>
      if 2 ≤ depth then none
      let line := lineOf rest
      let (source, rest) ← splitSource 0 .code [] rest
      if source.all isBlank then none
      let (echo, rest) := splitEcho source rest
      let rest ← dropConversion rest
      let slot : Slot := { home, line, source }
      let (piece, rest) ← match rest with
        | ':' :: rest => do
          let (format, rest) ← pieces n (depth + 1) rest
          pure (Piece.formatted slot (merge format), rest)
        | _ => pure (Piece.slot slot, rest)
      match rest with
      | '\x7d' :: rest =>
        let (more, rest) ← pieces n depth rest
        return (text :: .text echo :: piece :: more, rest)
      | _ => none

end Template

def piecesOf (line : Nat) (sigil : Sigil) (body : List Char) : Option (List Piece) :=
  if sigil.template then do
    let lineOf (rest : List Char) := line + (body.count '\n' - rest.count '\n')
    let (pieces, rest) ← Template.pieces sigil.raw line lineOf (body.length + 1) 0 body
    if rest.isEmpty then some pieces else none
  else do
    let piece ← Template.decode sigil.raw body
    return [piece]

end Phrasebook.Script
