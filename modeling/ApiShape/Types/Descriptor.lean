import ApiShape.Types.TypeExpr

/-!
Type descriptors: an origin, generic arguments and nullability. Two type expressions that a program
means alike have the same descriptor, so descriptors serve as keys.
-/

namespace ApiShape

/-- The containers of items that values are collected in. -/
inductive Container where
  | list
  | tuple
  | set
  | frozenset
deriving DecidableEq, Repr

def Container.name : Container → String
  | list => "list"
  | tuple => "tuple"
  | set => "set"
  | frozenset => "frozenset"

/-- The container that a type expression's items are collected in. -/
def SequenceForm.container : SequenceForm → Container
  | list | sequence | mutableSequence | collection | iterable => .list
  | tuple => .tuple
  | set | mutableSet => .set
  | frozenset | abstractSet => .frozenset

/-- What a type is made from. A generic class that is specialised before use is an origin together
with its arguments; `expression` is a hand-made origin that is no class. -/
inductive Origin where
  | any
  | null
  | union
  | container (c : Container)
  | map
  | named (c : NamedClass)
  | specialised (c : ClassRef) (args : List TypeExpr)
  | literal (items : List String)
  | typeVar (name : String)
  | expression (a : TypeExpr)
deriving DecidableEq, Repr

/-- A type: its origin, its generic arguments, and whether it admits null. -/
structure Descriptor where
  origin : Origin
  args : List Descriptor := []
  nullable : Bool := false
deriving Repr

instance : Inhabited Descriptor := ⟨{ origin := .any }⟩

namespace Descriptor

mutual

/-- The descriptors are the same. -/
def beq : Descriptor → Descriptor → Bool
  | ⟨o, as, n⟩, ⟨p, bs, m⟩ => o = p && beqAll as bs && n = m

/-- The descriptors of two lists are the same one by one. -/
def beqAll : List Descriptor → List Descriptor → Bool
  | [], [] => true
  | a :: as, b :: bs => beq a b && beqAll as bs
  | _, _ => false

end

mutual

theorem beq_iff (a b : Descriptor) : beq a b = true ↔ a = b := by
  cases a; cases b; simp [beq, beqAll_iff, and_assoc]

theorem beqAll_iff (as bs : List Descriptor) : beqAll as bs = true ↔ as = bs := by
  cases as <;> cases bs <;> simp [beqAll, beq_iff, beqAll_iff]

end

instance : DecidableEq Descriptor := fun a b => decidable_of_iff _ (beq_iff a b)

/-- The type without null. -/
def nonNull (d : Descriptor) : Descriptor := { d with nullable := false }

/-- The type, admitting null as told. -/
def withNullable (nullable : Bool) (d : Descriptor) : Descriptor := { d with nullable }

/-- The type of the class. -/
def ofClass (c : NamedClass) : Descriptor := { origin := .named c }

/-- The type of a class known to every program. -/
def ofBuiltin (b : Builtin) : Descriptor := ofClass (.builtin b)

/-- The type of anything. -/
def any : Descriptor := { origin := .any }

@[simp] theorem nonNull_nonNull (d : Descriptor) : d.nonNull.nonNull = d.nonNull := rfl

@[simp] theorem nullable_nonNull (d : Descriptor) : d.nonNull.nullable = false := rfl

end Descriptor

/-! ## Names -/

/-- The written name of a container of items. -/
def SequenceForm.name : SequenceForm → String
  | list => "List"
  | set => "Set"
  | frozenset => "FrozenSet"
  | tuple => "Tuple"
  | sequence => "Sequence"
  | mutableSequence => "MutableSequence"
  | collection => "Collection"
  | iterable => "Iterable"
  | abstractSet => "AbstractSet"
  | mutableSet => "MutableSet"

/-- The written name of a container of keys and values. -/
def MappingForm.name : MappingForm → String
  | dict => "Dict"
  | mapping => "Mapping"
  | mutableMapping => "MutableMapping"

/-- The written name of a class used with arguments. -/
def NamedClass.genericName : NamedClass → String
  | builtin .deque => "Deque"
  | builtin .type => "Type"
  | c => c.name

/-- A forward reference as messages show it: the bare name when it stands alone. -/
def forwardText (name : String) (nested : Bool) : String :=
  if nested then s!"ForwardRef({Text.quoted name})" else name

private def bracketed (name : String) (parts : List String) : String :=
  name ++ "[" ++ ", ".intercalate parts ++ "]"

mutual

/-- A type expression as it is shown in the name of a specialised class. -/
def TypeExpr.label : TypeExpr → String
  | .null => "NoneType"
  | .any => "Any"
  | .named (.declared c) => c.qualifiedName
  | .named c => c.name
  | .bare b => b.name
  | .typeVar n => "~" ++ n
  | .forward n _ => forwardText n true
  | .union ms => bracketed "Union" (labels ms)
  | .sequence .tuple a => bracketed "Tuple" [a.label, "..."]
  | .sequence f a => bracketed f.name [a.label]
  | .tuple as => bracketed "Tuple" (labels as)
  | .mapping f k v => bracketed f.name [k.label, v.label]
  | .applied c as => bracketed c.genericName (labels as)
  | .specialised c as => bracketed c.name (labels as)
  | .literal items => bracketed "Literal" items
  | .annotated a notes => bracketed "Annotated" (a.label :: notes.map noteLabel)
  | .unexamined _ => "TypeDescriptor"
where
  /-- A note as it is shown there: only its kind. -/
  noteLabel : Note → String
    | .parameter .. => "ParamInfo"
    | .other _ => "str"

def labels : List TypeExpr → List String
  | [] => []
  | a :: as => a.label :: labels as

end

/-- The name of a type expression that stands as an origin although it is no class. -/
def TypeExpr.originName : TypeExpr → String
  | .null => "None"
  | .forward n _ => Text.quoted n
  | .union [_, .null] | .union [.null, _] => "Optional"
  | .union _ => "Union"
  | .sequence f _ => f.name
  | .tuple _ => "Tuple"
  | .mapping f _ _ => f.name
  | .applied c _ => c.genericName
  | .annotated .. => "Annotated"
  | a => a.label

/-- The module of a type expression that stands as an origin and its name within that, where it has
a place: a declared class keeps its own, the standard forms have one module. -/
def TypeExpr.originPath? (a : TypeExpr) : Option (String × String) :=
  match a with
  | .applied (.declared c) _ => some (c.module, c.name)
  | .bare _ | .union _ | .sequence .. | .tuple _ | .mapping .. | .applied (.builtin _) _ =>
    some ("typing", a.originName)
  | _ => none

def Origin.name : Origin → String
  | any => "Any"
  | null => "NoneType"
  | union => "Union"
  | container c => c.name
  | map => "dict"
  | named c => c.name
  | specialised c args => (TypeExpr.specialised c args).label
  | literal _ => "Literal"
  | typeVar n => n
  | expression a => a.originName

/-- The module of an origin and its name within that, for origins that have a place. -/
def Origin.path? : Origin → Option (String × String)
  | any => some ("typing", "Any")
  | null => some ("builtins", "NoneType")
  | container c => some ("builtins", c.name)
  | map => some ("builtins", "dict")
  | named c => some c.path
  | specialised c args =>
    some (c.module, (TypeExpr.specialised c args).label)
  | literal _ => some ("typing", "Literal")
  | expression a => a.originPath?
  | union | typeVar _ => none

mutual

/-- A type as messages show it. -/
def Descriptor.text : Descriptor → String
  | ⟨origin, args, nullable⟩ =>
    let body :=
      if origin = .union then " | ".intercalate (texts args)
      else if args.isEmpty then origin.name
      else bracketed origin.name (texts args)
    if nullable then body ++ " | None" else body

/-- The texts of the types of a list. -/
def texts : List Descriptor → List String
  | [] => []
  | d :: ds => d.text :: texts ds

end

end ApiShape
