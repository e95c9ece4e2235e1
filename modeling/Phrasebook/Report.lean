import Phrasebook.Collector
import Phrasebook.File.Encoding
import Phrasebook.File.Folders
import Phrasebook.Script.Statement

namespace Phrasebook

/-- Why no entries can be given. Parsers and openers of files have causes of their own, `ε` and
`ω`. -/
inductive Failure (ε ω : Type) where
  | unparsable (cause : ε)
  | fault (cause : Fault)
  | unreadable (cause : ω)
  | unknownEncoding (name : String)
  | undecodable
  deriving DecidableEq, Repr

def Failure.message : Failure Script.Error File.OpenError → Option String
  | .unparsable cause => cause.message
  | .fault cause => some cause.message
  | .unreadable cause => some cause.message
  | .unknownEncoding name => some s!"unknown encoding: {name}"
  | .undecodable => none

structure Report (ε ω : Type) where
  outcome : Except (Failure ε ω) (List Entry)
  log : List String := []

structure Settings where
  seeds : List String := []
  maxDepth : Option Int := none

namespace Report

variable {ε ω : Type}

def ofFailure (f : Failure ε ω) : Report ε ω := { outcome := .error f }

/-- Collect the entries of a tree. Only a success is logged. -/
def ofTree (s : Settings) (filename : String) (tree : Node) : Report ε ω :=
  match Collector.visit tree (Collector.start filename s.seeds s.maxDepth) with
  | .ok () c =>
    { outcome := .ok c.catalog.entries
      log := [s!"Extracted {c.catalog.entries.length} entries from {filename}"] }
  | .error fault _ => ofFailure (.fault fault)

section

-- The parser is given a source and its name, the opener a path; it finds the bytes of the file.
variable (parse : String → String → Except ε Node) (load : String → Except ω ByteArray)

def ofSource (s : Settings) (filename source : String) : Report ε ω :=
  match parse source filename with
  | .ok tree => ofTree s filename tree
  | .error cause => ofFailure (.unparsable cause)

/-- The text of a file: the file is opened before the encoding is asked for, and line ends are made
alike. -/
def loadText (encoding path : String) : Except (Failure ε ω) String := do
  let bytes ← (load path).mapError .unreadable
  let some encoding := File.Encoding.ofName? encoding | throw (.unknownEncoding encoding)
  let some text := encoding.decode bytes | throw .undecodable
  return String.ofList (Text.unifyLines text.toList)

def ofFile (s : Settings) (encoding path : String) : Report ε ω :=
  let report := match loadText load encoding path with
    | .ok source => ofSource parse s path source
    | .error f => ofFailure f
  { report with log := s!"Extracting messages from {path}" :: report.log }

end

end Report

end Phrasebook
