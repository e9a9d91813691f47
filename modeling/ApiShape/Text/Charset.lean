import ApiShape.Text.Case
import ApiShape.Text.Utf8

/-!
The character sets of form texts. A set is found by name, whatever the letter case and whichever of
hyphen, blank and underscore joins the name's parts. Sets beyond the three given here are known to
the program that reads the texts.
-/

namespace ApiShape.Text

/-- The character sets that texts can be written in. -/
inductive Charset where
  | utf8
  | latin1
  | ascii
deriving DecidableEq, Repr

namespace Charset

private def nameKey (name : String) : String :=
  String.ofList ((lower name.toList).map fun c => if c = '-' || c = ' ' then '_' else c)

/-- The names of each set, in lower case and joined by underscores. -/
def names : Charset → List String
  | utf8 => ["utf_8", "utf8", "u8", "utf", "utf8_ucs2", "utf8_ucs4", "cp65001"]
  | latin1 => ["latin_1", "latin1", "latin", "l1", "iso_8859_1", "iso8859_1", "iso8859", "8859",
      "cp819", "csisolatin1", "ibm819", "iso_8859_1_1987", "iso_ir_100"]
  | ascii => ["us_ascii", "ascii", "us", "646", "ansi_x3.4_1968", "ansi_x3_4_1968",
      "ansi_x3.4_1986", "cp367", "csascii", "ibm367", "iso646_us", "iso_646.irv_1991", "iso_ir_6"]

/-- The set of that name. -/
def ofName? (name : String) : Option Charset :=
  [utf8, latin1, ascii].find? fun set => set.names.contains (nameKey name)

end Charset

/-- Why bytes could not be read as text. -/
inductive CharsetFault where
  | unknownCharset (name : String)
  | malformedUtf8 (fault : Utf8.Fault)
  | notAscii (byte : UInt8) (position : Nat)
  /-- The bytes are no text of a further set. -/
  | refused (message : String)
  /-- A further set fails, but not for the bytes that it was given. -/
  | broken (message : String)
  /-- The name holds a NUL. -/
  | nulInName
deriving DecidableEq, Repr

/-- There is no set of the name, or the bytes are no text of it. -/
def CharsetFault.isUnreadable : CharsetFault → Bool
  | unknownCharset _ | malformedUtf8 _ | notAscii .. | refused _ => true
  | broken _ | nulInName => false

/-- Further character sets by name. -/
abbrev Charsets := String → Option (List UInt8 → Except CharsetFault (List Char))

/-- The bytes read as ASCII, `position` bytes into the text. -/
def decodeAsciiFrom (position : Nat) : List UInt8 → Except CharsetFault (List Char)
  | [] => .ok []
  | b :: rest =>
    if b < 0x80 then (decodeAsciiFrom (position + 1) rest).map (Char.ofNat b.toNat :: ·)
    else .error (.notAscii b position)

/-- The bytes read in a character set. -/
def Charset.decode : Charset → List UInt8 → Except CharsetFault (List Char)
  | utf8, bytes => (Utf8.decode bytes).mapError .malformedUtf8
  | latin1, bytes => .ok (bytes.map fun b => Char.ofNat b.toNat)
  | ascii, bytes => decodeAsciiFrom 0 bytes

/-- The bytes read in the named character set, which may be one of the further sets. Without bytes
the name is not looked up. -/
def decodeNamed (further : Charsets) (name : String) (bytes : List UInt8) :
    Except CharsetFault String :=
  if name.toList.contains '\x00' then .error .nulInName
  else if bytes.isEmpty then .ok ""
  else match Charset.ofName? name with
    | some set => (set.decode bytes).map String.ofList
    | none =>
      match further name with
      | some read => (read bytes).map String.ofList
      | none => .error (.unknownCharset name)

/-- The Latin-1 form of a text, or its first character that has none and the position of that. -/
def encodeLatin1From (position : Nat) : List Char → Except (List Char × Nat) (List UInt8)
  | [] => .ok []
  | c :: rest =>
    if c.toNat < 0x100 then
      (encodeLatin1From (position + 1) rest).map (UInt8.ofNat c.toNat :: ·)
    else .error ((c :: rest).takeWhile fun d => 0x100 ≤ d.toNat, position)

end ApiShape.Text
