import ApiShape.Declaration.Environment

/-!
The fields of a described type, the variants of a sum, and the construction of records. Fields come
in declaration order with the type's arguments put in for its type variables.
-/

namespace ApiShape

/-- A constructor field: its name, the key that the constructor takes, the name on the wire, its
type, and where a request carries it. -/
structure Field where
  name : String
  key : String
  wireName : String
  type : Descriptor
  location : Location := .query
  description : Option String := none
  default : Option Default := none
deriving Repr

/-- The first text unless it is missing or empty. -/
def chooseText (preferred otherwise : Option String) : Option String :=
  match preferred with
  | none | some "" => otherwise
  | some s => some s

/-- The text unless it is missing or empty. -/
def textOr (preferred : Option String) (otherwise : String) : String :=
  (chooseText preferred none).getD otherwise

/-- The first note that says where a parameter lives. -/
def parameterNote? (notes : List Note) : Option (Location × Option String × Option String) :=
  notes.findSome? fun
    | .parameter location wireAlias description => some (location, wireAlias, description)
    | .other _ => none

/-- The field of a declaration. What its type expression notes counts before what it declares. -/
def FieldDecl.toField (f : FieldDecl) (key : String) (type : Descriptor) : Field :=
  let make (location : Location) (wireAlias description : Option String) : Field :=
    { name := f.name, key, wireName := textOr wireAlias f.name, type, location, description
      default := f.default }
  match parameterNote? f.type.notes with
  | some (location, wireAlias, description) =>
    make location (chooseText wireAlias f.wireAlias) (chooseText description f.description)
  | none => make .query f.wireAlias f.description

namespace FieldDecl

variable (f : FieldDecl) (key : String) (type : Descriptor)

@[simp] theorem toField_name : (f.toField key type).name = f.name := by
  unfold toField
  split <;> rfl

@[simp] theorem toField_key : (f.toField key type).key = key := by
  unfold toField
  split <;> rfl

@[simp] theorem toField_default : (f.toField key type).default = f.default := by
  unfold toField
  split <;> rfl

@[simp] theorem toField_type : (f.toField key type).type = type := by
  unfold toField
  split <;> rfl

end FieldDecl

namespace Environment

/-- What type variables stand for in the fields of a type. -/
def bindings (env : Environment) (d : Descriptor) : Bindings :=
  match d.origin with
  | .named (.declared c) => (((env.find? c).map (·.params)).getD []).zip d.args
  | _ => []

/-- All type expressions that are resolved before the fields of a class are listed. -/
def hints (env : Environment) : Origin → List TypeExpr
  | .named (.declared c) => ((env.find? c).map (·.hints)).getD []
  | _ => []

/-- The type of a field. A name that no declaration explains stands inside the class. -/
def describeField (σ : Bindings) (a : TypeExpr) : Except Error Descriptor :=
  (describeWith σ a).mapError fun name => .unresolvedReference { name with nested := true }

/-- The fields of a type's constructor. A name that no declaration explains fails the whole type,
but of a model only once its field is reached. -/
def fields (env : Environment) (d : Descriptor) : Except Error (List Field) :=
  let d := d.nonNull
  if !env.isClass d.origin then .error (.unhandled d "not a class")
  else match env.record? d.origin with
    | none => .error (.unhandled d "fields cannot be enumerated")
    | some r =>
      let σ := env.bindings d
      match r.form with
      | .model => r.fields.mapM fun f => do
        return f.toField (textOr f.wireAlias f.name) (← describeField σ f.type)
      | _ =>
        match TypeExpr.unresolvedIn? (env.hints d.origin) with
        | some name =>
          let cause := Fault.unresolvedName name
          .error (.unhandledType (.described d) s!"unresolved annotation ({cause.message})"
            (some (.fault cause)))
        | none => (r.fields.filter (·.settable)).mapM fun f => do
          return f.toField f.name (← describeField σ f.type)

/-- The variants of a sum in order of declaration. -/
def variants (env : Environment) (d : Descriptor) : Except Error (List Descriptor) :=
  let d := d.nonNull
  let noSum := Except.error (.unhandled d "not a sum type")
  match d.origin with
  | .union => .ok d.args
  | .named (.declared c) =>
    match env.find? c with
    | some decl =>
      if decl.isSealed then .ok ((env.subclasses c).map fun s => .ofClass (.declared s)) else noSum
    | none => noSum
  | _ => noSum

/-- The type that a new name stands for. -/
def newtype? (env : Environment) : Origin → Option TypeExpr
  | .named (.declared c) => (env.find? c).bind fun d =>
    match d.shape with
    | .newtype of => some of
    | _ => none
  | _ => none

/-- The type that a wrapper wraps. -/
def unwrap (env : Environment) (d : Descriptor) : Except Error Descriptor :=
  let d := d.nonNull
  let noWrapper := Except.error (.fault (.notAWrapper d))
  if env.kind d ≠ .wrapper then noWrapper
  else match env.newtype? d.origin with
    | some of => (describe of).mapError .unresolvedReference
    | none => do
      match ← env.fields d with
      | [only] => return only.type
      | _ => noWrapper

/-- Calls the constructor of a class. -/
def construct (env : Environment) (origin : Origin) (values : List (String × Value)) :
    Except Error Value :=
  match env.record? origin with
  | some r => r.construct origin values
  | none => .error (.unhandled { origin } none)

/-- Instances of a record are made by its constructor. -/
theorem construct_eq {env : Environment} {origin : Origin} {r : RecordDef}
    (hrecord : env.record? origin = some r) (values : List (String × Value)) :
    env.construct origin values = r.construct origin values := by
  rw [construct, hrecord]

end Environment

end ApiShape
