import ApiShape.Document
import ApiShape.Table

/-!
Schemas and their published form. A reference names an entry of the table of named schemas. The
order of an object's properties carries no meaning; the order of required names, of enumerated
values and of variants does.
-/

namespace ApiShape

/-- The schema of a type. -/
inductive Schema where
  | primitive (type : String) (format : Option String) (enum : Option (List String))
  | object (properties : List (String × Schema)) (required : List String)
  | array (items : Schema)
  | map (values : Schema)
  | oneOf (variants : List Schema)
  | ref (name : String)
deriving Repr, Inhabited

namespace Schema

/-- A primitive without enumerated values. -/
def plain (type : String) (format : Option String) : Schema := primitive type format none

/-- Any text. -/
def string : Schema := plain "string" none

/-- Any bytes. -/
def binary : Schema := plain "string" (some "binary")

/-! ## Equality -/

mutual

/-- The schemas are equal, the order of properties aside. -/
def same : Schema → Schema → Bool
  | primitive t f e, primitive u g h => t = u && f = g && e = h
  | object ps rs, object qs ss => ps.length = qs.length && sameIn ps qs && rs = ss
  | array a, array b => same a b
  | map a, map b => same a b
  | oneOf as, oneOf bs => sameAll as bs
  | ref n, ref m => n = m
  | _, _ => false

/-- The schemas of two lists are equal one by one. -/
def sameAll : List Schema → List Schema → Bool
  | [], [] => true
  | a :: as, b :: bs => same a b && sameAll as bs
  | _, _ => false

/-- Every property is present in `qs` with an equal schema. -/
def sameIn : List (String × Schema) → List (String × Schema) → Bool
  | [], _ => true
  | (name, s) :: rest, qs =>
    (match Table.lookup name qs with
      | some t => same s t
      | none => false) && sameIn rest qs

end

/-! ## Published form -/

/-- What stands before a name in the published references, unless told otherwise. -/
def standardRefBase : String := "#/components/schemas/"

private def optionalMember (name : String) (value : Option Document) : List (String × Document) :=
  value.toList.map fun d => (name, d)

private def textList (items : List String) : Document := .list (items.map .text)

mutual

/-- The published form; `refBase` stands before the names in references. -/
def render (refBase : String) : Schema → Document
  | primitive type format enum =>
    .object (("type", .text type) :: optionalMember "format" (format.map .text) ++
      optionalMember "enum" (enum.map textList))
  | object properties required =>
    .object (("type", .text "object") ::
      ("properties", .object (renderProperties refBase properties)) ::
      optionalMember "required" (if required.isEmpty then none else some (textList required)))
  | array items => .object [("type", .text "array"), ("items", render refBase items)]
  | map values =>
    .object [("type", .text "object"), ("additionalProperties", render refBase values)]
  | oneOf variants => .object [("oneOf", .list (renderAll refBase variants))]
  | ref name => .object [("$ref", .text (refBase ++ name))]

/-- The published forms of the schemas of a list. -/
def renderAll (refBase : String) : List Schema → List Document
  | [] => []
  | s :: rest => render refBase s :: renderAll refBase rest

/-- The published forms of properties under their names. -/
def renderProperties (refBase : String) : List (String × Schema) → List (String × Document)
  | [] => []
  | (name, s) :: rest => (name, render refBase s) :: renderProperties refBase rest

end

mutual

/-- The names that a schema refers to at any depth. -/
def references : Schema → List String
  | primitive .. => []
  | object properties _ => referencesOfProperties properties
  | array s | map s => references s
  | oneOf variants => referencesOfAll variants
  | ref name => [name]

def referencesOfAll : List Schema → List String
  | [] => []
  | s :: rest => references s ++ referencesOfAll rest

def referencesOfProperties : List (String × Schema) → List String
  | [] => []
  | (_, s) :: rest => references s ++ referencesOfProperties rest

end

end Schema

end ApiShape
