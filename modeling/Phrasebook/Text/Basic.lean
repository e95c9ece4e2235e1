namespace Phrasebook.Text

def within (blocks : List (Nat × Nat)) (c : Char) : Bool :=
  blocks.any fun b => b.1 ≤ c.toNat && c.toNat ≤ b.2

/-- Put `code` in place of every occurrence of `raw`. -/
def substitute (raw : Char) (code s : List Char) : List Char :=
  s.flatMap fun c => if c = raw then code else [c]

/-- Control characters that cannot stand raw in a catalog, with their codes. -/
def controlCodes : List (Char × List Char) :=
  [('\n', ['\\', 'n']), ('\t', ['\\', 't']), ('\x00', ['\\', '0'])]

def escapeChars (s : List Char) : List Char :=
  controlCodes.foldl (fun s code => substitute code.1 code.2 s) s

def escape (s : String) : String :=
  String.ofList (escapeChars s.toList)

def occursIn (part : List Char) : List Char → Bool
  | [] => part.isEmpty
  | c :: cs => part.isPrefixOf (c :: cs) || occursIn part cs

def contains (whole part : String) : Bool :=
  occursIn part.toList whole.toList

def unifyLines : List Char → List Char
  | '\r' :: '\n' :: cs => '\n' :: unifyLines cs
  | '\r' :: cs => '\n' :: unifyLines cs
  | c :: cs => c :: unifyLines cs
  | [] => []

end Phrasebook.Text
