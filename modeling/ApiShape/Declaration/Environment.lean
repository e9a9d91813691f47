import ApiShape.Declaration.Enumeration
import ApiShape.Declaration.Record

/-!
The declarations of a program and what they say about types: the kind of a type, its item type, the
class behind it.
-/

namespace ApiShape

/-- What a declaration declares. -/
inductive Shape where
  /-- A new name for a type. -/
  | newtype (of : TypeExpr)
  | enumeration (e : Enumeration)
  | record (r : RecordDef)
  | plain

/-- A declared name. `hints` are all type expressions of the class and its parents in the order in
which they are resolved; `builtinBase` is the known class that it descends from. Marks are not
inherited. -/
structure Declaration where
  ref : ClassRef
  shape : Shape
  params : List String := []
  isGeneric : Bool := false
  hints : List TypeExpr := []
  parents : List ClassRef := []
  builtinBase : Option Builtin := none
  isWrapper : Bool := false
  isSealed : Bool := false
  isStrict : Bool := false

/-- The declarations of a program in order. -/
structure Environment where
  declarations : List Declaration := []

/-- The shape of a described type. -/
inductive Kind where
  | leaf
  | enum
  | stream
  | array
  | map
  | object
  | sum
  | wrapper
  | unknown
deriving DecidableEq, Repr

/-- The name of a shape. -/
def Kind.name : Kind → String
  | leaf => "leaf"
  | enum => "enum"
  | stream => "stream"
  | array => "array"
  | map => "map"
  | object => "object"
  | sum => "sum"
  | wrapper => "wrapper"
  | unknown => "unknown"

/-- What a stream type is bound to. -/
inductive StreamForm where
  | payload
  | content
  | bytes (mutable : Bool)
  | raw
deriving DecidableEq, Repr

/-- The way in which a known class is a stream. -/
def Builtin.streamForm? : Builtin → Option StreamForm
  | .binaryPayload => some .payload
  | .contentStream => some .content
  | .bytes => some (.bytes false)
  | .bytearray => some (.bytes true)
  | .memoryFile | .rawFile => some .raw
  | _ => none

namespace Declaration

/-- The way in which a declared class is a stream. -/
def streamForm? (d : Declaration) : Option StreamForm := d.builtinBase.bind (·.streamForm?)

/-- The shape of a declared type. -/
def kind (d : Declaration) : Kind :=
  match d.shape with
  | .newtype _ => .wrapper
  | .enumeration _ => .enum
  | .record _ | .plain =>
    if d.streamForm?.isSome then .stream
    else if d.isWrapper then .wrapper
    else if d.isSealed then .sum
    else match d.shape with
      | .record _ => .object
      | _ => .leaf

def record? (d : Declaration) : Option RecordDef :=
  match d.shape with
  | .record r => some r
  | _ => none

/-- A declared class is an array in no case, and a sum only if it is sealed. -/
theorem kind_cases (decl : Declaration) :
    decl.kind ≠ .array ∧ (decl.kind = .sum → decl.isSealed = true) := by
  cases hshape : decl.shape with
  | newtype | enumeration => simp [kind, hshape]
  | record | plain =>
    simp only [kind, hshape]
    split
    · simp
    · split
      · simp
      · split
        · next hsealed => exact ⟨by simp, fun _ => hsealed⟩
        · simp

end Declaration

namespace Environment

/-- The declaration of a class. -/
def find? (env : Environment) (c : ClassRef) : Option Declaration :=
  env.declarations.find? (·.ref.id == c.id)

/-- The direct subclasses of a class in order of declaration. -/
def subclasses (env : Environment) (c : ClassRef) : List ClassRef :=
  (env.declarations.filter (·.parents.any (·.id == c.id))).map (·.ref)

/-- The way in which a class is a stream. -/
def streamForm? (env : Environment) : NamedClass → Option StreamForm
  | .builtin b => b.streamForm?
  | .declared c => (env.find? c).bind (·.streamForm?)

/-- The shape of a type. Marks on a generic class do not reach its specialisations. -/
def kind (env : Environment) (d : Descriptor) : Kind :=
  match d.origin with
  | .any | .null | .literal _ | .typeVar _ | .expression _ => .unknown
  | .union => .sum
  | .container _ => if d.args.length = 1 then .array else .unknown
  | .map => .map
  | .named (.builtin b) => if b.streamForm?.isSome then .stream else .leaf
  | .named (.declared c) => ((env.find? c).map (·.kind)).getD .leaf
  | .specialised _ _ => .object

/-- The type of the items of an array or of the values of a map. -/
def item (env : Environment) (d : Descriptor) : Except Error Descriptor :=
  match env.kind d, d.args with
  | .array, item :: _ => .ok item
  | .map, [_, value] => .ok value
  | .map, _ => .error (.fault .noArgument)
  | _, _ => .error (.fault (.noItemType d))

/-- An array has an item type. -/
theorem exists_item {env : Environment} {d : Descriptor} (hkind : env.kind d = .array) :
    ∃ item, env.item d.nonNull = .ok item := by
  obtain ⟨origin, args, nullable⟩ := d
  have hargs : ∃ item, args = [item] := by
    cases origin with
    | container c =>
      simp only [kind] at hkind
      split at hkind
      · next hlen => exact List.length_eq_one_iff.1 hlen
      · cases hkind
    | named c =>
      cases c with
      | builtin b =>
        simp only [kind] at hkind
        split at hkind <;> cases hkind
      | declared c =>
        simp only [kind] at hkind
        cases hfind : env.find? c with
        | none => simp [hfind] at hkind
        | some decl =>
          rw [hfind] at hkind
          exact absurd hkind decl.kind_cases.1
    | _ => simp [kind] at hkind
  obtain ⟨item, rfl⟩ := hargs
  refine ⟨item, ?_⟩
  have hkind' : env.kind (Descriptor.nonNull ⟨origin, [item], nullable⟩) = .array := hkind
  rw [Environment.item, hkind']
  rfl

/-- The record behind an origin, with the type variables of a specialisation replaced. -/
def record? (env : Environment) : Origin → Option RecordDef
  | .named (.builtin b) => builtinRecord? b
  | .named (.declared c) => (env.find? c).bind (·.record?)
  | .specialised c args => do
    let d ← env.find? c
    let r ← d.record?
    let σ := fun n => (d.params.zip args).lookup n
    let subst (f : FieldDecl) : FieldDecl := { f with type := f.type.subst σ }
    return { r with fields := r.fields.map subst }
  | _ => none

/-- The enumeration behind an origin, and whether it is strict. -/
def enumeration? (env : Environment) : Origin → Option (ClassRef × Enumeration × Bool)
  | .named (.declared c) => do
    let d ← env.find? c
    match d.shape with
    | .enumeration e => some (d.ref, e, d.isStrict)
    | _ => none
  | _ => none

/-- The origin is a class, so that its fields could be asked for. -/
def isClass (env : Environment) : Origin → Bool
  | .any | .null | .container _ | .map | .specialised .. | .named (.builtin _) => true
  | .named (.declared c) =>
    match env.find? c with
    | some d => match d.shape with
      | .newtype _ => false
      | _ => true
    | none => true
  | .union | .literal _ | .typeVar _ | .expression _ => false

/-! ## Marks -/

/-- The declaration that a type expression names. -/
def declarationOf? (env : Environment) : TypeExpr → Option Declaration
  | .named (.declared c) => env.find? c
  | _ => none

/-- The type expression is a record class. A generic class that is applied to arguments is none. -/
def isObjectClass (env : Environment) : TypeExpr → Bool
  | .named c => (env.record? (.named c)).isSome
  | .specialised .. => true
  | _ => false

/-- The number of constructor fields that a type expression's class declares. A hand-made descriptor
is a record of three. -/
def declaredFieldCount (env : Environment) (a : TypeExpr) : Option Nat :=
  let origin? : Option Origin := match a with
    | .named c => some (.named c)
    | .specialised c args => some (.specialised c args)
    | _ => none
  match a, origin?.bind env.record? with
  | .unexamined _, _ => some 3
  | _, some r => some (r.fields.filter (·.settable)).length
  | _, none => none

end Environment

end ApiShape
