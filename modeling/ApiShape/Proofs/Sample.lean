import ApiShape.Converter.Wrapper
import ApiShape.Http.Request

/-!
The vocabulary of examples: classes of the module `app` as a program may declare them, requests, and
the states that a program may start from.
-/

namespace ApiShape.Sample

def text : TypeExpr := .named (.builtin .str)

def number : TypeExpr := .named (.builtin .int)

/-! ## Classes -/

/-- The class of the name in the module `app`. -/
def classNamed (name : String) : ClassRef := ⟨name, name, "app", name⟩

/-- The class as it is written in types. -/
def classExpr (name : String) : TypeExpr := .named (.declared (classNamed name))

/-- The type that the class is described as. -/
def classType (name : String) : Descriptor := .ofClass (.declared (classNamed name))

/-- The class of the record. -/
def recordClass (name : String) (r : RecordDef) : Declaration where
  ref := classNamed name
  shape := .record r
  hints := r.fields.map (·.type)

def dataclass (name : String) (fields : List FieldDecl) : Declaration :=
  recordClass name { form := .dataclass, fields }

/-- The class with type variables. -/
def generic (params : List String) (c : Declaration) : Declaration :=
  { c with params, isGeneric := true }

/-- A wrapper class whose constructor makes the checks. -/
def wrapperClass (name : String) (type : TypeExpr) (checks : List Check) : Declaration where
  ref := classNamed name
  shape := .record
    { form := .dataclass, fields := [{ name := "value", type }], own := some (.checked checks) }
  hints := [type]
  isWrapper := true

/-- Colours, of which red is the only one. -/
def color : Declaration where
  ref := classNamed "Color"
  shape := .enumeration (.ofList [("RED", .text "red")])

/-- An instance of a data class that is not frozen. -/
def instanceOf (name : String) (fields : List (String × Value)) : Value :=
  .record ⟨.named (.declared (classNamed name)), .dataclass, false⟩ fields

/-! ## Requests -/

/-- A request with the parameters in its query and the headers, whose names are in lower case. -/
def requestWith (query : List (String × List String)) (headers : List (String × String)) :
    Http.Request where
  method := "GET"
  path := "/"
  query := Table.ofList query
  headerValues := Table.group headers
  pathParams := ∅
  body := { content := [] }
  chunkSize := 65536

/-! ## States -/

/-- The converters that a program starts with, and no others. -/
def fresh : State := { registry := .standard .standard true }

/-- No converters but one that is registered for each of the types and reads any text. -/
def withTexts (types : List Descriptor) : State where
  registry := types.foldl (fun r d => (r.register d (.ok ∘ .text) none .string true false).1)
    (.empty true)

/-- A converter for texts and no others. -/
def textual : State := withTexts [.ofBuiltin .str]

end ApiShape.Sample
