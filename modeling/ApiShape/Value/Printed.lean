import ApiShape.Value.Basic

/-!
Values as messages print them. A text stands for itself; inside a container, and wherever a value is
shown so that it can be told from others, texts are quoted.
-/

namespace ApiShape

open Number Time

/-- The printed form of a member's value. -/
def EnumValue.printed : EnumValue → String
  | null => "None"
  | bool b => if b then "True" else "False"
  | int n => toString n
  | text s => s

/-- The quoted form of a member's value. -/
def EnumValue.shown : EnumValue → String
  | text s => Text.quoted s
  | v => v.printed

/-- A text in quotes, or the word for its absence. -/
def shownText? (s : Option String) : String := (s.map Text.quoted).getD "None"

private def commas (parts : List String) : String := ", ".intercalate parts

namespace Value

mutual

/-- The value with texts quoted. -/
def shown : Value → String
  | null => "None"
  | bool b => if b then "True" else "False"
  | text s => Text.quoted s
  | integer _ n => toString n
  | double _ x => String.ofList x.toText
  | decimal d => s!"Decimal('{String.ofList d.toText}')"
  | uuid u => s!"UUID('{u.toText}')"
  | date d => String.ofList d.iso
  | time t => String.ofList t.iso
  | dateTime t => String.ofList t.iso
  | offsetTime t => String.ofList t.iso
  | offsetDateTime t => String.ofList t.iso
  | zonedDateTime t => String.ofList t.iso
  | instant t => String.ofList t.iso
  | member c name value => s!"<{c.name}.{name}: {value.shown}>"
  | bytes c mutable data =>
    if mutable then s!"{c.name}({Text.quotedBytes data})" else Text.quotedBytes data
  | content ct _ => s!"ContentStream(content_type={shownText? ct})"
  | payload ct filename _ =>
    s!"BinaryPayload(content_type={shownText? ct}, filename={shownText? filename})"
  | stream _ => "<stream>"
  | list items => s!"[{commas (shownAll items)}]"
  | tuple [item] => s!"({item.shown},)"
  | tuple items => s!"({commas (shownAll items)})"
  | set false [] => "set()"
  | set false items => "\x7b" ++ commas (shownAll items) ++ "\x7d"
  | set true [] => "frozenset()"
  | set true items => "frozenset(\x7b" ++ commas (shownAll items) ++ "\x7d)"
  | record c fields => s!"{c.origin.name}({commas (shownFields fields)})"

/-- The values of a list with texts quoted. -/
def shownAll : List Value → List String
  | [] => []
  | v :: vs => v.shown :: shownAll vs

/-- The fields of a record with their names. -/
def shownFields : List (String × Value) → List String
  | [] => []
  | (name, v) :: rest => s!"{name}={v.shown}" :: shownFields rest

end

/-- The value as it stands in a sentence. -/
def printed : Value → String
  | text s => s
  | decimal d => String.ofList d.toText
  | uuid u => u.toText
  | member c name _ => s!"{c.name}.{name}"
  | v => v.shown

end Value

end ApiShape
