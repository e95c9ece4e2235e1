namespace Phrasebook.File

inductive Encoding where
  | utf8
  | utf8Marked
  | latin1
  | ascii
  deriving DecidableEq, Repr

namespace Encoding

def all : List Encoding := [.utf8, .utf8Marked, .latin1, .ascii]

def names : Encoding → List String
  | .utf8 => ["utf-8", "utf8", "utf", "u8", "cp65001", "utf8-ucs2", "utf8-ucs4"]
  | .utf8Marked => ["utf-8-sig"]
  | .latin1 =>
    ["latin-1", "latin1", "latin", "l1", "8859", "cp819", "csisolatin1", "ibm819", "iso8859",
      "iso8859-1", "iso-8859-1", "iso-8859-1-1987", "iso-ir-100"]
  | .ascii =>
    ["ascii", "646", "ansi-x3.4-1968", "ansi-x3-4-1968", "ansi-x3.4-1986", "cp367", "csascii",
      "ibm367", "iso646-us", "iso-646.irv-1991", "iso-ir-6", "us", "us-ascii"]

def canonical (name : String) : String :=
  let spaced := name.toList.map fun c => if c.isAlphanum || c = '.' then c.toLower else ' '
  "-".intercalate (((spaced.splitOn ' ').filter (· ≠ [])).map String.ofList)

def ofName? (name : String) : Option Encoding :=
  all.find? fun e => e.names.contains (canonical name)

def mark : List UInt8 := [0xef, 0xbb, 0xbf]

def dropMark (bytes : ByteArray) : ByteArray :=
  if mark.isPrefixOf bytes.toList then bytes.extract mark.length bytes.size else bytes

def byteChar (b : UInt8) : Char := Char.ofNat b.toNat

/-- The text that the bytes stand for. One mark at the front is dropped if the encoding has one, and
a file that ends within its mark is empty. -/
def decode : Encoding → ByteArray → Option String
  | .utf8, bytes => String.fromUTF8? bytes
  | .utf8Marked, bytes =>
    if bytes.toList.isPrefixOf mark then some "" else String.fromUTF8? (dropMark bytes)
  | .latin1, bytes => some (String.ofList (bytes.toList.map byteChar))
  | .ascii, bytes =>
    if bytes.toList.all (· < 128) then some (String.ofList (bytes.toList.map byteChar)) else none

end Encoding

end Phrasebook.File
