import ApiShape.Converter.Wrapper
import ApiShape.Types.Namer

/-!
Schema synthesis. Records and sums are named: a reference is handed out before the body is built, so
recursive types end, and the body goes into the table of named schemas. All else is built in place;
wrappers leave no trace. A failed build takes its references and table entries back.
-/

namespace ApiShape

/-- What schema synthesis is told: the declarations, how types are named, whether a name may change
its schema, and how deep types may nest. -/
structure Blueprint where
  env : Environment
  namer : Namer := .default
  strictNames : Bool := false
  budget : Nat := 1000

namespace Blueprint

/-- The field takes part in the schema. -/
def isVisible (f : Field) : Bool := !"_".toList.isPrefixOf f.name.toList

/-- The record schema of fields with their schemas; the last one of a wire name counts. -/
def objectSchema (fields : List (Field × Schema)) : Schema :=
  .object (Table.ofList (fields.map fun (f, s) => (f.wireName, s))).entries
    ((fields.filter (!·.1.type.nullable)).map (·.1.wireName))

/-- Puts a schema into the table. A different schema under the name is a collision, which is noted
and, with strict names, fails. -/
def store (bp : Blueprint) (name : String) (schema : Schema) : Action Unit := do
  match (← get).schemas.get? name with
  | none => keep
  | some existing =>
    if existing.same schema then return
    let collision : Collision := ⟨name, existing, schema⟩
    modify fun s => { s with collisions := s.collisions ++ [collision] }
    Action.count .nameCollisions
    Action.report (.namesCollided collision)
    if bp.strictNames then throw (.namingCollision collision)
    keep
where
  /-- Sets the entry. -/
  keep : Action Unit := do
    modify fun s => { s with schemas := s.schemas.set name schema }
    Action.count .schemasBuilt
    Action.report (.schemaRegistered name)

/-- Names a type and builds its body, unless it has been named before. -/
def named (bp : Blueprint) (d : Descriptor) (body : Action Schema) : Action Schema := do
  match (← get).refs.get? d with
  | some name => return .ref name
  | none =>
    let name := bp.namer d
    modify fun s => { s with refs := s.refs.set d name }
    bp.store name (← body)
    return .ref name

/-- The schema of a type. -/
def synthesise (bp : Blueprint) : (budget : Nat) → Descriptor → Action Schema
  | 0, _ => throw .exhausted
  | budget + 1, d => do
    let d := d.nonNull
    match bp.env.kind d with
    | .stream => return .binary
    | .wrapper => synthesise bp budget (← Action.ofExcept (bp.env.unwrap d))
    | kind =>
      if (← get).registry.handles bp.env d then
        return (← Action.resolve bp.env d).converter.schema
      match kind with
      | .array => return .array (← synthesise bp budget (← Action.ofExcept (bp.env.item d)))
      | .map => return .map (← synthesise bp budget (← Action.ofExcept (bp.env.item d)))
      | .object => bp.named d do
        let fields ← Action.ofExcept (bp.env.fields d)
        return objectSchema (← (fields.filter isVisible).mapM fun f => do
          return (f, ← synthesise bp budget f.type))
      | .sum => bp.named d do
        return .oneOf (← (← Action.ofExcept (bp.env.variants d)).mapM (synthesise bp budget))
      | _ => throw (.unhandled d none)

/-- Builds the schema of a type. On failure the references and the table are as before. -/
def build (bp : Blueprint) (d : Descriptor) : Action Schema := do
  let before ← get
  Action.onError (bp.synthesise bp.budget d) fun _ =>
    modify fun s => { s with refs := before.refs, schemas := before.schemas }

/-- The reference given to a type. -/
def refFor? (s : State) (d : Descriptor) : Option String := s.refs.get? d.nonNull

/-- The table entry that a reference names. -/
def resolveRef (s : State) (name : String) : Except Error Schema :=
  match s.schemas.get? name with
  | some schema => .ok schema
  | none => .error (.fault (.unknownKey name))

/-- The published form of the table of named schemas. -/
def components (s : State) (refBase : String) : Document :=
  .object (s.schemas.entries.map fun (name, schema) => (name, schema.render refBase))

end Blueprint

end ApiShape
