import ApiShape.Value.Equality

/-!
Record classes: their fields, their constructors, the checks that a constructor may make, and the
records that every program knows.
-/

namespace ApiShape

open Number

/-- The default of a field: a value that all records share, or a factory, which is called for each
record and may fail. -/
inductive Default where
  | shared (v : Value)
  | factory (made : Except Error Value)
deriving Repr

/-- The default as a new record gets it. -/
def Default.value : Default → Except Error Value
  | shared v => .ok v
  | factory made => made

/-- A default is there unless its factory fails. -/
theorem Default.value_cases (d : Default) :
    (∃ v, d.value = .ok v) ∨ ∃ e, d = .factory (.error e) := by
  cases d with
  | shared v => exact .inl ⟨v, rfl⟩
  | factory made =>
    cases made with
    | ok v => exact .inl ⟨v, rfl⟩
    | error e => exact .inr ⟨e, rfl⟩

/-- A field as it is declared. A field that is not `settable` is no argument of the constructor. -/
structure FieldDecl where
  name : String
  type : TypeExpr
  wireAlias : Option String := none
  description : Option String := none
  default : Option Default := none
  settable : Bool := true
  keywordOnly : Bool := false
deriving Repr

/-! ## Constructors -/

/-- What a class makes of the values that it is called with, which stand under the keys of its
fields. It is told the class and the fields of the new record, since subclasses and specialised
models take the constructor of another class over. -/
abbrev Constructor :=
  RecordClass → List FieldDecl → List (String × Value) → Except Error Value

/-- What a field of a new record starts with: the value that is given for it, if it is an argument,
else its default. A field without either is left out. -/
def FieldDecl.initial? (f : FieldDecl) (values : List (String × Value)) :
    Except Error (Option Value) :=
  match (if f.settable then values.lookup f.name else none), f.default with
  | some v, _ => .ok (some v)
  | none, some default => default.value.map some
  | none, none => .ok none

/-- The fields of a new record in order. -/
def initialFields : List FieldDecl → List (String × Value) → Except Error (List (String × Value))
  | [], _ => .ok []
  | f :: rest, values => do
    let first ← f.initial? values
    return (first.map ((f.name, ·))).toList ++ (← initialFields rest values)

/-- What becomes of the fields of a new record: they may be refused or changed. -/
abbrev Finish := List (String × Value) → Except Error (List (String × Value))

/-- The constructor that dataclasses and named tuples are given. -/
def Constructor.generated (finish : Finish := .ok) : Constructor := fun cls fields values => do
  return .record cls (← finish (← initialFields fields values))

/-- A record class. Its own constructor goes before the one that it would be given; a model, whose
values are validated, always has its own. -/
structure RecordDef where
  form : RecordForm
  fields : List FieldDecl
  frozen : Bool := false
  own : Option Constructor := none

namespace RecordDef

/-- Instances of the class can be hashed. -/
def hashable (r : RecordDef) : Bool :=
  match r.form with
  | .dataclass | .model => r.frozen
  | .namedTuple => true

def constructor (r : RecordDef) : Constructor := r.own.getD .generated

/-- Calls the constructor of the class, which the origin stands for. -/
def construct (r : RecordDef) (origin : Origin) (values : List (String × Value)) :
    Except Error Value :=
  r.constructor ⟨origin, r.form, r.hashable⟩ r.fields values

end RecordDef

/-! ## Checks -/

/-- What a check asks of the value of a field. -/
inductive Condition where
  | atLeast (bound : Decimal)
  | shorterThan (bound : Int)
  | atMost (other : String)
deriving Repr

/-- A check of one field, and the fault that it raises. -/
structure Check where
  field : String
  condition : Condition
  kind : FaultKind
  message : String
deriving Repr

/-- The value of a field, or null. -/
def fieldValue (fields : List (String × Value)) (name : String) : Value :=
  (fields.lookup name).getD .null

/-- The value breaks the condition. -/
def Condition.broken (c : Condition) (fields : List (String × Value)) (v : Value) :
    Except Error Bool :=
  match c with
  | atLeast bound =>
    let bound := if bound.exponent = 0 then
        .integer .unbounded (signed bound.negative bound.coefficient)
      else .double false (.ofDecimal bound)
    Value.lt "<" v bound
  | shorterThan bound => do return bound < (← v.length)
  | atMost other =>
    let bound := fieldValue fields other
    match Value.lt ">" bound v with
    | .ok less => .ok less
    | .error _ => .error (.fault (.notComparable ">" v.className bound.className))

/-- Makes the checks in order until one raises its fault. -/
def Check.runAll : List Check → List (String × Value) → Except Error Unit
  | [], _ => .ok ()
  | c :: rest, fields => do
    if ← c.condition.broken fields (fieldValue fields c.field) then
      .error (.fault (.raised c.kind c.message))
    else runAll rest fields

/-- The constructor that makes the checks on the fields of a new record. -/
def Constructor.checked (checks : List Check) : Constructor :=
  .generated fun fields => do
    Check.runAll checks fields
    return fields

/-! ## Records that every program knows -/

private def builtinField (name : String) (type : TypeExpr) (default : Option Default) :
    FieldDecl := { name, type, default }

/-- The class of a known name, where that is a record. -/
def builtinRecord? : Builtin → Option RecordDef
  | .contentStream => some { form := .dataclass, fields := contentFields }
  | .binaryPayload =>
    let filename := builtinField "filename" optionalText (some (.shared .null))
    some { form := .dataclass, fields := contentFields ++ [filename] }
  | _ => none
where
  /-- A text or null. -/
  optionalText : TypeExpr := .union [.named (.builtin .str), .null]
  /-- The fields of both stream records. -/
  contentFields : List FieldDecl :=
    [builtinField "content_type" optionalText none,
      builtinField "stream" (.named (.builtin .binaryFile)) none]

end ApiShape
