import ApiShape.Number.Digits
import ApiShape.Table
import ApiShape.Text.Split
import ApiShape.Text.Utf8

/-!
Query strings. Pairs stand between ampersands, and a plus sign is a space. Escaped bytes are read as
UTF-8 together with the ASCII text around them; escapes that are none stand for themselves.
-/

namespace ApiShape.Http

open Number Text

/-- The byte that two hexadecimal digits write. -/
def hexByte? (high low : Char) : Option UInt8 := do
  return UInt8.ofNat (16 * (← hexDigit? high) + (← hexDigit? low))

/-- The bytes of ASCII text in which `%` escapes a byte. -/
def escapedBytes : List Char → List UInt8
  | [] => []
  | c :: rest =>
    let literal := UInt8.ofNat c.toNat
    if c = '%' then
      match rest with
      | high :: low :: rest' =>
        match hexByte? high low with
        | some b => b :: escapedBytes rest'
        | none => literal :: escapedBytes (high :: low :: rest')
      | rest => literal :: escapedBytes rest
    else literal :: escapedBytes rest

def isAscii (c : Char) : Bool := c.toNat < 0x80

/-- The text with its escapes resolved, each longest run of ASCII characters for itself. -/
def unescape (s : List Char) : List Char :=
  (s.splitBy fun c d => isAscii c == isAscii d).flatMap fun run =>
    if run.all isAscii then Utf8.decodeLossy (escapedBytes run) else run

namespace Query

/-- A name or value with its escapes resolved. -/
def component (s : List Char) : String :=
  String.ofList (unescape (s.map fun c => if c = '+' then ' ' else c))

/-- The pairs of a query string; one without an equals sign has an empty value. -/
def pairs (query : List Char) : List (String × String) :=
  ((pieces '&' query).filter (!·.isEmpty)).map fun pair =>
    let (name, value) := cut '=' pair
    (component name, component (value.getD []))

/-- The values of a query string by name. -/
def read (query : List Char) : Table String (List String) := Table.group (pairs query)

end Query

end ApiShape.Http
