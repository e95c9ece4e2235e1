namespace Phrasebook.Script.Number

def isBinary (c : Char) : Bool := c = '0' || c = '1'

def isOctal (c : Char) : Bool := '0' ≤ c && c ≤ '7'

def isHex (c : Char) : Bool :=
  c.isDigit || ('a' ≤ c && c ≤ 'f') || ('A' ≤ c && c ≤ 'F')

def hexValue (c : Char) : Nat :=
  if c.isDigit then c.toNat - '0'.toNat
  else if 'a' ≤ c then c.toNat - 'a'.toNat + 10
  else c.toNat - 'A'.toNat + 10

def skipDigits (isDigit : Char → Bool) : List Char → Option (List Char)
  | [] => some []
  | '_' :: c :: cs => if isDigit c then skipDigits isDigit cs else none
  | c :: cs =>
    if isDigit c then skipDigits isDigit cs
    else if c = '_' then none
    else some (c :: cs)

def skipBased (isDigit : Char → Bool) : List Char → Option (List Char)
  | [] => none
  | c :: cs => if isDigit c || c = '_' then skipDigits isDigit (c :: cs) else none

/-- A decimal number starts with zero only if it is zero. -/
def skipDecimal (s : List Char) : Option (List Char) := do
  let rest ← skipDigits Char.isDigit s
  let digits := s.take (s.length - rest.length)
  if digits.head? = some '0' && digits.any (fun c => c ≠ '0' && c ≠ '_') then none else some rest

def skip : List Char → Option (List Char)
  | '0' :: c :: cs =>
    match c.toLower with
    | 'x' => skipBased isHex cs
    | 'o' => skipBased isOctal cs
    | 'b' => skipBased isBinary cs
    | _ => skipDecimal ('0' :: c :: cs)
  | cs => skipDecimal cs

/-- Words that may touch the number before them. -/
def tails : List (List Char) := [['a', 'n', 'd'], ['o', 'r']]

def split (run : List Char) : Option (List Char) := do
  let rest ← skip run
  if rest.isEmpty || tails.any (·.isPrefixOf rest) then some rest else none

end Phrasebook.Script.Number
