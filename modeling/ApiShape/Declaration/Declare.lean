import ApiShape.Declaration.Environment

/-!
Declaring classes. A class takes over the fields of its parents, a redeclared field keeping its
place; what a declaration may not do is refused here.
-/

namespace ApiShape

/-- How a class is declared. -/
inductive ClassForm where
  | plain
  | record (form : RecordForm)
deriving DecidableEq, Repr

/-- The marks on a declaration. -/
structure Marks where
  wrapper : Bool := false
  isSealed : Bool := false
  strict : Bool := false
deriving DecidableEq, Repr

/-- A class as it is written down, with its own constructor if it has one. -/
structure ClassSpec where
  ref : ClassRef
  form : ClassForm
  params : List String := []
  parents : List TypeExpr := []
  fields : List FieldDecl := []
  frozen : Bool := false
  own : Option Constructor := none

/-- The field as a class of the form knows it. Only a dataclass tells arguments apart, and a named
tuple knows of a field no more than its name, its type and its default. -/
def FieldDecl.knownTo (form : RecordForm) (f : FieldDecl) : FieldDecl :=
  match form with
  | .dataclass => f
  | .model => { f with settable := true, keywordOnly := false }
  | .namedTuple => { name := f.name, type := f.type, default := f.default }

/-- The fields with those of `own` put in: over a field of the same name, else at the end. -/
def mergeFields (inherited own : List FieldDecl) : List FieldDecl :=
  own.foldl (fun fields f =>
    if fields.any (·.name == f.name) then fields.map fun g => if g.name == f.name then f else g
    else fields ++ [f]) inherited

/-- The class path under which faults show the default value of a field. -/
def sharedDefaultPath? (v : Value) : Option (String × String) :=
  match v with
  | .list _ => some ("builtins", "list")
  | .set false _ => some ("builtins", "set")
  | .bytes c true _ => some c.path
  | .content .. => some (Builtin.path .contentStream)
  | .payload .. => some (Builtin.path .binaryPayload)
  | _ => none

/-- A default that records would share although it can change is refused. -/
def checkDefaults : List FieldDecl → Except Error Unit
  | [] => .ok ()
  | f :: rest =>
    match f.default with
    | some (.shared v) =>
      match sharedDefaultPath? v with
      | some path => .error (.fault (.sharedDefault path f.name))
      | none => checkDefaults rest
    | _ => checkDefaults rest

/-- Positional arguments without default may not follow ones with a default. -/
def checkOrder (seenDefault : Bool) : List FieldDecl → Except Error Unit
  | [] => .ok ()
  | f :: rest =>
    if !f.settable || f.keywordOnly then checkOrder seenDefault rest
    else if f.default.isSome then checkOrder true rest
    else if seenDefault then .error (.fault (.fieldOrder f.name))
    else checkOrder false rest

/-! ## Type expressions -/

/-- The union of the type expressions, of which there has to be one. -/
def declareUnion (members : List TypeExpr) : Except Error TypeExpr :=
  if members.isEmpty then .error (.fault .emptyUnion) else .ok (.unionOf members)

/-- A note that a parameter lives in the location of that name. -/
def declareNote (location : String) (wireAlias description : Option String) : Except Error Note :=
  match Location.ofName? location with
  | some l => .ok (.parameter l wireAlias description)
  | none => .error (.fault (.unknownLocation location))

/-! ## Classes -/

namespace Environment

/-- The declared class behind a parent. -/
def parentRef? : TypeExpr → Option ClassRef
  | .named (.declared c) | .applied (.declared c) _ | .specialised c _ => some c
  | _ => none

/-- The record behind a parent. -/
def parentRecord? (env : Environment) : TypeExpr → Option RecordDef
  | .named c | .applied c _ => env.record? (.named c)
  | .specialised c args => env.record? (.specialised c args)
  | _ => none

/-- The known class that a parent descends from. -/
def parentBase? (env : Environment) (a : TypeExpr) : Option Builtin :=
  match a with
  | .named (.builtin b) => some b
  | a => (parentRef? a).bind fun c => (env.find? c).bind (·.builtinBase)

/-- The record that a class declares over the records of its parents. -/
def declaredRecord (spec : ClassSpec) (form : RecordForm) (inherited : List RecordDef) :
    Except Error RecordDef := do
  let inherited := inherited.filter (·.form = form)
  let base := inherited.reverse.foldl (fun fields r => mergeFields fields r.fields) []
  let fields := mergeFields base (spec.fields.map (·.knownTo form))
  let own := spec.own <|> inherited.findSome? (·.own)
  if form = .dataclass then
    checkDefaults spec.fields
    if !inherited.isEmpty then
      if !spec.frozen && inherited.any (·.frozen) then throw (.fault .frozenParent)
      if spec.frozen && !inherited.any (·.frozen) then throw (.fault .unfrozenParent)
    checkOrder false fields
  return { form, fields, frozen := spec.frozen, own }

def declareClass (env : Environment) (spec : ClassSpec) (marks : Marks) :
    Except Error Environment := do
  let records := spec.parents.filterMap env.parentRecord?
  let shape ← match spec.form with
    | .plain => pure ((records.head?.map Shape.record).getD .plain)
    | .record form => do pure (.record (← declaredRecord spec form records))
  let parents := spec.parents.filterMap parentRef?
  let known := parents.filterMap env.find?
  let params := if spec.params.isEmpty then (TypeExpr.typeVarsOf spec.parents).eraseDups
    else spec.params
  let decl : Declaration := {
    ref := spec.ref, shape, params, parents
    isGeneric := !params.isEmpty || known.any (·.isGeneric)
    hints := known.reverse.flatMap (·.hints) ++ spec.fields.map (·.type)
    builtinBase := spec.parents.findSome? env.parentBase?
    isWrapper := marks.wrapper, isSealed := marks.isSealed, isStrict := marks.strict }
  let env' : Environment := ⟨env.declarations ++ [decl]⟩
  let count := env'.declaredFieldCount (.named (.declared spec.ref))
  if marks.wrapper && count != some 1 then throw (.fault (.notOneField spec.ref.name count))
  return env'

/-- Declares an enumeration. It has no fields, so it cannot be marked as a wrapper. -/
def declareEnumeration (env : Environment) (ref : ClassRef) (e : Enumeration) (marks : Marks) :
    Except Error Environment :=
  if marks.wrapper then .error (.fault (.notOneField ref.name none))
  else .ok ⟨env.declarations ++
    [{ ref, shape := .enumeration e, isSealed := marks.isSealed, isStrict := marks.strict }]⟩

/-- Declares a new name for a type. -/
def declareNewtype (env : Environment) (ref : ClassRef) (of : TypeExpr) : Environment :=
  ⟨env.declarations ++ [{ ref, shape := .newtype of }]⟩

/-- The class applied to arguments. A model is specialised at once; a named tuple takes any
arguments. -/
def apply (env : Environment) (c : ClassRef) (args : List TypeExpr) : Except Error TypeExpr :=
  match env.find? c with
  | none => .ok (.applied (.declared c) args)
  | some d =>
    let path := (c.module, c.qualifiedName)
    let expected := d.params.length
    match d.record?.map RecordDef.form with
    | some RecordForm.model =>
      if args.length = expected then .ok (.specialised c args)
      else .error (.fault (.argumentCount "parameters" path args.length expected))
    | form =>
      if args.length = expected && expected ≠ 0 then .ok (.applied (.declared c) args)
      else if expected ≠ 0 then
        .error (.fault (.argumentCount "arguments" path args.length expected))
      else if d.isGeneric then .error (.fault (.notGeneric path))
      else if form = some .namedTuple then .ok (.applied (.declared c) args)
      else .error (.fault (.notSubscriptable c.name))

end Environment

end ApiShape
