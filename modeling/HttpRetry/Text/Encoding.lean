import HttpRetry.Text.Ranges
import HttpRetry.Text.Utf8

/-!
# Encodings

The encodings that a file of settings may be in, and the names that each goes by.
-/

namespace HttpRetry

inductive Encoding where
  | utf8
  /-- UTF-8 of which a byte order mark at the front is no part of the text. -/
  | markedUtf8
  | ascii
  /-- One byte for each of the first 256 characters. -/
  | latin1
deriving DecidableEq

namespace Encoding

inductive Problem where
  | utf8 (problem : Utf8.Problem)
  | notAscii (byte : UInt8) (position : Nat)

/-! ## Names -/

def isNameChar (c : Char) : Bool :=
  c.isAlphanum || c = '.'

/-- A name as it is compared: without case, its parts joined by single low lines. -/
def plainName (name : String) : String :=
  let parts := (name.toList.splitBy fun a b => isNameChar a == isNameChar b).filter
    fun part => part.all isNameChar
  String.ofList (['_'].intercalate (parts.map fun part => part.map Char.toLower))

def utf8Names : List String := ["utf_8", "utf8", "u8", "utf", "utf8_ucs2", "utf8_ucs4", "cp65001"]

def asciiNames : List String := ["ascii", "us_ascii", "646", "ansi_x3.4_1968", "ansi_x3_4_1968",
  "ansi_x3.4_1986", "cp367", "csascii", "ibm367", "iso646_us", "iso_646.irv_1991", "iso_ir_6", "us"]

def latin1Names : List String := ["latin_1", "latin1", "latin", "l1", "8859", "cp819",
  "csisolatin1", "ibm819", "iso8859", "iso8859_1", "iso_8859_1", "iso_8859_1_1987", "iso_ir_100"]

def ofName? (name : String) : Option Encoding :=
  let name := plainName name
  if utf8Names.contains name then some utf8
  else if name = "utf_8_sig" then some markedUtf8
  else if asciiNames.contains name then some ascii
  else if latin1Names.contains name then some latin1
  else none

/-! ## Decoding -/

def byteOrderMark : Bytes := [0xEF, 0xBB, 0xBF]

def decodeAscii (position : Nat) : Bytes → Except Problem (List Char)
  | [] => .ok []
  | byte :: rest =>
    if byte < 0x80 then (decodeAscii (position + 1) rest).map (Char.ofNat byte.toNat :: ·)
    else .error (.notAscii byte position)

def decode (encoding : Encoding) (bytes : Bytes) : Except Problem String :=
  match encoding with
  | utf8 => (Utf8.decodeText bytes).mapError .utf8
  | markedUtf8 =>
    let bytes := if byteOrderMark.isPrefixOf bytes then bytes.drop 3 else bytes
    (Utf8.decodeText bytes).mapError .utf8
  | ascii => (decodeAscii 0 bytes).map String.ofList
  | latin1 => .ok (String.ofList (bytes.map fun byte => Char.ofNat byte.toNat))

end Encoding

end HttpRetry
