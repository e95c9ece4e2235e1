import Phrasebook.Proofs.EncodedText
import Phrasebook.Proofs.Escaping
import Phrasebook.Report

namespace Phrasebook

namespace File

inductive LineEnd where
  | lf
  | crlf
  | cr
  deriving DecidableEq, Repr

namespace LineEnd

def chars : LineEnd → List Char
  | .lf => ['\n']
  | .crlf => ['\r', '\n']
  | .cr => ['\r']

def write (e : LineEnd) (s : String) : String :=
  String.ofList (Text.substitute '\n' e.chars s.toList)

end LineEnd

open Text

theorem unifyLines_cons {c : Char} (h : c ≠ '\r') (s : List Char) :
    unifyLines (c :: s) = c :: unifyLines s := by
  rw [unifyLines]
  · exact fun _ hc => absurd hc h
  · exact h

/-- Every line end is made a line feed, unless it is a return that would run into a line feed. -/
theorem unifyLines_chars_append {e : LineEnd} {s : List Char}
    (h : e = .cr → s.head? ≠ some '\n') :
    unifyLines (e.chars ++ s) = '\n' :: unifyLines s := by
  cases e with
  | lf => exact unifyLines_cons (by decide) s
  | crlf => rfl
  | cr =>
    rw [LineEnd.chars, List.singleton_append, unifyLines]
    rintro t rfl
    exact h rfl rfl

theorem unifyLines_substitute (e : LineEnd) {s : List Char} (h : '\r' ∉ s) :
    unifyLines (substitute '\n' e.chars s) = s := by
  induction s with
  | nil => rfl
  | cons c s ih =>
    rw [List.mem_cons, not_or] at h
    have hcons : substitute '\n' e.chars (c :: s) =
        (if c = '\n' then e.chars else [c]) ++ substitute '\n' e.chars s := List.flatMap_cons
    rw [hcons]
    split
    · rename_i hc
      rw [unifyLines_chars_append, ih h.2, hc]
      -- no line feed is left that a return could run into
      rintro rfl hhead
      have hmem := List.mem_of_mem_head? hhead
      rw [mem_substitute] at hmem
      simp [LineEnd.chars] at hmem
    · rw [List.singleton_append, unifyLines_cons (Ne.symm h.1), ih h.2]

theorem Encoding.CanEncode.write {encoding : Encoding} {s : String} (h : encoding.CanEncode s)
    (e : LineEnd) : encoding.CanEncode (e.write s) := by
  have hends : ∀ d ∈ e.chars, encoding.covers d := by
    cases e <;> cases encoding <;> simp [LineEnd.chars, covers]
  intro c hc
  rw [LineEnd.write, String.toList_ofList, mem_substitute] at hc
  obtain ⟨-, hc⟩ | ⟨hc, -⟩ := hc
  · exact hends c hc
  · exact h c hc

theorem Encoding.ofName?_of_mem {encoding : Encoding} {name : String}
    (h : name ∈ encoding.names) : ofName? name = some encoding := by
  have hall : ∀ e ∈ all, ∀ name ∈ e.names, ofName? name = some e := by decide +kernel
  exact hall encoding (by cases encoding <;> decide) name h

end File

open File

namespace Report

variable {ε ω : Type}

theorem loadText_eq {load : String → Except ω ByteArray} {encoding : Encoding}
    {name path source : String} {lineEnd : LineEnd} (hname : name ∈ encoding.names)
    (hsource : '\r' ∉ source.toList) (hcan : encoding.CanEncode source)
    (hload : load path = .ok (encoding.encode (lineEnd.write source))) :
    (loadText load name path : Except (Failure ε ω) String) = .ok source := by
  have hdecode := Encoding.decode_encode (hcan.write lineEnd)
  have hlines : String.ofList (Text.unifyLines (lineEnd.write source).toList) = source := by
    rw [LineEnd.write, String.toList_ofList, unifyLines_substitute lineEnd hsource,
      String.ofList_toList]
  have hopened : (load path).mapError (Failure.unreadable : ω → Failure ε ω) =
      .ok (encoding.encode (lineEnd.write source)) := by
    rw [hload]
    rfl
  simp only [loadText, hopened, bind, Except.bind, Encoding.ofName?_of_mem hname, hdecode, hlines,
    pure, Except.pure]

def logFor (filename : String) : Except (Failure ε ω) (List Entry) → List String
  | .ok entries => [s!"Extracted {entries.length} entries from {filename}"]
  | .error _ => []

theorem log_ofTree (s : Settings) (filename : String) (tree : Node) :
    let report : Report ε ω := ofTree s filename tree
    report.log = logFor filename report.outcome := by
  intro report
  simp only [report, ofTree]
  split <;> rfl

theorem log_ofSource (parse : String → String → Except ε Node) (s : Settings)
    (filename source : String) :
    let report : Report ε ω := ofSource parse s filename source
    report.log = logFor filename report.outcome := by
  intro report
  simp only [report, ofSource]
  split
  · exact log_ofTree s filename _
  · rfl

/-- A file that holds a source, in whatever encoding that can hold it and with whatever line ends,
is reported on like the source under the name of its path, whatever the parser and the opener of
files are, and whether the source gives entries or not. Only the log has one line more. -/
theorem file_reported_like_source (parse : String → String → Except ε Node)
    (load : String → Except ω ByteArray) (settings : Settings) (path name source : String)
    (encoding : Encoding) (lineEnd : LineEnd) (hname : name ∈ encoding.names)
    (hsource : '\r' ∉ source.toList) (hcan : encoding.CanEncode source)
    (hload : load path = .ok (encoding.encode (lineEnd.write source))) :
    let file : Report ε ω := ofFile parse load settings name path
    let direct : Report ε ω := ofSource parse settings path source
    file.outcome = direct.outcome ∧
    file.log = s!"Extracting messages from {path}" :: direct.log ∧
    direct.log = logFor path direct.outcome := by
  intro file direct
  have hfile : file = { direct with
      log := s!"Extracting messages from {path}" :: direct.log } := by
    simp only [file, ofFile, loadText_eq hname hsource hcan hload, direct]
  rw [hfile]
  exact ⟨rfl, rfl, log_ofSource parse settings path source⟩

/-- Two calls with characters of two and three bytes, behind a mark and with returns at the line
ends. -/
theorem file_reported_like_source_marked :
    let source := "_('é')\n_('€')\n"
    let bytes : List UInt8 :=
      [0xef, 0xbb, 0xbf, 0x5f, 0x28, 0x27, 0xc3, 0xa9, 0x27, 0x29, 0x0d, 0x0a,
        0x5f, 0x28, 0x27, 0xe2, 0x82, 0xac, 0x27, 0x29, 0x0d, 0x0a]
    let folders : Folders := { files := [(["tmp", "a.py"], bytes.toByteArray)] }
    let parse (source _filename : String) := Script.read source
    let file := ofFile parse folders.read {} "utf-8-sig" "/tmp/a.py"
    Encoding.utf8Marked.CanEncode source ∧
    folders.read "/tmp/a.py" = .ok (Encoding.utf8Marked.encode (LineEnd.crlf.write source)) ∧
    file.outcome = (ofSource parse {} "/tmp/a.py" source).outcome ∧
    file.log = ["Extracting messages from /tmp/a.py", "Extracted 2 entries from /tmp/a.py"] := by
  intro source bytes folders parse file
  have hcan : Encoding.utf8Marked.CanEncode source := fun _ _ => rfl
  have hbytes : bytes.toByteArray = Encoding.utf8Marked.encode (LineEnd.crlf.write source) := by
    decide +kernel
  have hparts : parts "/tmp/a.py" = ["", "tmp", "a.py"] := by decide +kernel
  have habsolute : "/tmp/a.py".startsWith "/" = true := by decide +kernel
  have hread : folders.read "/tmp/a.py" = .ok bytes.toByteArray := by
    rw [Folders.read, hparts, habsolute]
    rfl
  rw [hbytes] at hread
  obtain ⟨houtcome, hlog, -⟩ := file_reported_like_source parse folders.read {} "/tmp/a.py"
    "utf-8-sig" source .utf8Marked .crlf (by decide) (by decide +kernel) hcan hread
  refine ⟨hcan, hread, houtcome, hlog.trans ?_⟩
  decide +kernel

end Report

end Phrasebook
