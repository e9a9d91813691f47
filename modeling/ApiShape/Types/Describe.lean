import ApiShape.Types.Descriptor

/-!
From type expressions to descriptors. Notes are dropped, null becomes nullability, equivalent
containers get one origin, and type variables are replaced by what they are bound to.
-/

namespace ApiShape

/-- A name that no declaration explains. -/
structure UnresolvedName where
  name : String
  nested : Bool
deriving DecidableEq, Repr

/-- What type variables stand for. -/
abbrev Bindings := List (String × Descriptor)

/-- The type that a variable is bound to, or any type. -/
def Bindings.get (σ : Bindings) (name : String) : Descriptor := (σ.lookup name).getD .any

/-- The type of null. -/
def Descriptor.null : Descriptor := { origin := .null, nullable := true }

/-- A list, set or tuple of the items. -/
def Descriptor.array (c : Container) (item : Descriptor) : Descriptor :=
  { origin := .container c, args := [item] }

/-- A mapping of the keys and values. -/
def Descriptor.map (key value : Descriptor) : Descriptor := { origin := .map, args := [key, value] }

/-- The type of a container written without item types: any items, text as keys. -/
def BareContainer.descriptor : BareContainer → Descriptor
  | list | List | Sequence => .array .list .any
  | set => .array .set .any
  | frozenset => .array .frozenset .any
  | tuple | Tuple => .array .tuple .any
  | dict | Dict => .map (.ofBuiltin .str) .any

/-- The union of the types; a single one becomes nullable instead of being wrapped. -/
def Descriptor.oneOf (nullable : Bool) : List Descriptor → Descriptor
  | [d] => d.withNullable (d.nullable || nullable)
  | ds => { origin := .union, args := ds, nullable }

/-- The origin of a descriptor that is made by hand from a type expression. -/
def TypeExpr.handmadeOrigin : TypeExpr → Origin
  | .any => .any
  | .named c => .named c
  | .bare .list => .container .list
  | .bare .set => .container .set
  | .bare .frozenset => .container .frozenset
  | .bare .tuple => .container .tuple
  | .bare .dict => .map
  | .specialised c args => .specialised c args
  | .literal items => .literal items
  | .typeVar n => .typeVar n
  | a => .expression a

mutual

def describeWith (σ : Bindings) : TypeExpr → Except UnresolvedName Descriptor
  | .null => .ok .null
  | .any => .ok .any
  | .named c => .ok (.ofClass c)
  | .bare b => .ok b.descriptor
  | .typeVar n => .ok (σ.get n)
  | .forward n nested => .error ⟨n, nested⟩
  | .union ms => do return .oneOf (ms.contains .null) (← describeMembers σ ms)
  | .sequence f a => do return .array f.container (← describeWith σ a)
  | .tuple [] => .ok (.array .tuple .any)
  | .tuple (a :: as) => do
    return { origin := .container .tuple, args := (← describeWith σ a) :: (← describeAll σ as) }
  | .mapping _ k v => do return .map (← describeWith σ k) (← describeWith σ v)
  | .applied c as => do return { origin := .named c, args := ← describeAll σ as }
  | .specialised c as => .ok { origin := .specialised c as }
  | .literal items => .ok { origin := .literal items }
  | .annotated a _ => describeWith σ a
  | .unexamined a => .ok { origin := a.handmadeOrigin }

def describeAll (σ : Bindings) : List TypeExpr → Except UnresolvedName (List Descriptor)
  | [] => .ok []
  | a :: as => do return (← describeWith σ a) :: (← describeAll σ as)

/-- The descriptors of the members of a union, null left out. -/
def describeMembers (σ : Bindings) : List TypeExpr → Except UnresolvedName (List Descriptor)
  | [] => .ok []
  | .null :: as => describeMembers σ as
  | a :: as => do return (← describeWith σ a) :: (← describeMembers σ as)

end

/-- The descriptor of a type expression without bindings: type variables stand for any type. -/
def describe (a : TypeExpr) : Except UnresolvedName Descriptor := describeWith [] a

end ApiShape
