import Phrasebook.Script.Number

namespace Phrasebook.Script

inductive CodeMode where
  | plain
  | slash
  | octal (left value : Nat)
  | hex (left value : Nat)
  deriving Repr

/-- A reader of backslash codes; the text so far is kept latest character first. -/
structure CodeReader where
  bytes : Bool
  mode : CodeMode := .plain
  output : List Char := []
  deriving Repr

namespace CodeReader

def letters : List (Char × Char) :=
  [('\\', '\\'), ('\'', '\''), ('"', '"'), ('a', '\x07'), ('b', '\x08'), ('f', '\x0c'),
    ('n', '\n'), ('r', '\r'), ('t', '\t'), ('v', '\x0b')]

def push (r : CodeReader) (c : Char) : CodeReader :=
  { r with output := c :: r.output, mode := .plain }

def enter (r : CodeReader) (mode : CodeMode) : CodeReader := { r with mode }

def readPlain (r : CodeReader) (c : Char) : CodeReader :=
  if c = '\\' then r.enter .slash else r.push c

/-- The character after a backslash. A code that is not known stays as it is written. -/
def readSlash (r : CodeReader) (c : Char) : Option CodeReader :=
  match letters.lookup c with
  | some d => some (r.push d)
  | none =>
    if c = '\n' then some (r.enter .plain)
    else if Number.isOctal c then some (r.enter (.octal 2 (Number.hexValue c)))
    else if c = 'x' then some (r.enter (.hex 2 0))
    else if r.bytes then some ((r.push '\\').push c)
    else if c = 'u' then some (r.enter (.hex 4 0))
    else if c = 'U' then some (r.enter (.hex 8 0))
    else if c = 'N' then none
    else some ((r.push '\\').push c)

def readOctal (r : CodeReader) (left value : Nat) (c : Char) : CodeReader :=
  if Number.isOctal c then
    let value := value * 8 + Number.hexValue c
    if left = 1 then r.push (Char.ofNat value) else r.enter (.octal (left - 1) value)
  else (r.push (Char.ofNat value)).readPlain c

/-- A number that no character has is refused, a surrogate's among them. -/
def readHex (r : CodeReader) (left value : Nat) (c : Char) : Option CodeReader :=
  let value := value * 16 + Number.hexValue c
  if !Number.isHex c then none
  else if left = 1 then
    if value.isValidChar then some (r.push (Char.ofNat value)) else none
  else some (r.enter (.hex (left - 1) value))

def step (r : CodeReader) (c : Char) : Option CodeReader :=
  match r.mode with
  | .plain => some (r.readPlain c)
  | .slash => r.readSlash c
  | .octal left value => some (r.readOctal left value c)
  | .hex left value => r.readHex left value c

def finish (r : CodeReader) : Option (List Char) :=
  match r.mode with
  | .plain => some r.output.reverse
  | .slash => some (r.push '\\').output.reverse
  | .octal _ value => some (r.push (Char.ofNat value)).output.reverse
  | .hex _ _ => none

end CodeReader

def decodeCodes (bytes : Bool) (body : List Char) : Option (List Char) :=
  body.foldlM CodeReader.step { bytes } >>= CodeReader.finish

end Phrasebook.Script
