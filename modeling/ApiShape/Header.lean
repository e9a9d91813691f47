import ApiShape.Table
import ApiShape.Text.Blank
import ApiShape.Text.Case
import ApiShape.Text.Split

/-!
Header values with parameters, such as `form-data; name="a"`. The value is cut at every semicolon
and a parameter at its first equals sign; quotes around a parameter's value are dropped.
-/

namespace ApiShape

open Text

/-- A header's main value in lower case and its parameters, their names in lower case. -/
structure Header where
  value : String
  params : Table String String
deriving Repr

namespace Header

/-- The name and the value of a parameter; items without an equals sign are none. -/
def param? (item : List Char) : Option (String × String) :=
  match cut '=' item with
  | (name, some value) =>
    some (String.ofList (lower (trim name)), String.ofList (trimWhile (· = '"') (trim value)))
  | (_, none) => none

/-- The items between the semicolons, trimmed, blank ones left out. -/
def items (line : List Char) : List (List Char) :=
  ((pieces ';' line).map trim).filter (!·.isEmpty)

/-- Reads a header value. -/
def read (line : String) : Header :=
  match items line.toList with
  | [] => ⟨"", ∅⟩
  | main :: rest => ⟨String.ofList (lower main), Table.ofList (rest.filterMap param?)⟩

end Header

def lowerCase (s : String) : String := String.ofList (lower s.toList)

def upperCase (s : String) : String := String.ofList (upper s.toList)

/-- A string without blanks at its ends. -/
def trimmed (s : String) : String := String.ofList (trim s.toList)

/-- The content type matches one of the patterns: all types, one type, or all types of a family such
as `image/*`. -/
def mediaTypeMatches (contentType : Option String) (accepted : List String) : Bool :=
  let media := (Header.read (contentType.getD "")).value.toList
  accepted.any fun pattern =>
    let pattern := lower pattern.toList
    pattern = "*/*".toList || pattern = media ||
      ("/*".toList.isSuffixOf pattern && pattern.dropLast.isPrefixOf media)

end ApiShape
