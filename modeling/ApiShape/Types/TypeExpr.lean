import ApiShape.Text.Quoted
import ApiShape.Types.NamedClass

/-!
Type expressions as a program writes them. A union is kept flat, without duplicates and with at
least two members; `TypeExpr.unionOf` is the way to build one.
-/

namespace ApiShape

/-- Where on a request a parameter is found. -/
inductive Location where
  | query
  | path
  | header
  | cookie
deriving DecidableEq, Repr

def Location.name : Location → String
  | query => "query"
  | path => "path"
  | header => "header"
  | cookie => "cookie"

def Location.ofName? (name : String) : Option Location :=
  [query, path, header, cookie].find? (·.name == name)

/-- A note on a type expression: where the parameter lives and under which name, or something
else. -/
inductive Note where
  | parameter (location : Location) (wireAlias description : Option String)
  | other (text : String)
deriving DecidableEq, Repr

/-- The generic containers of items of one type. -/
inductive SequenceForm where
  | list
  | set
  | frozenset
  | tuple
  | sequence
  | mutableSequence
  | collection
  | iterable
  | abstractSet
  | mutableSet
deriving DecidableEq, Repr

/-- The generic containers of keys and values. -/
inductive MappingForm where
  | dict
  | mapping
  | mutableMapping
deriving DecidableEq, Repr

/-- Containers written without their item types. The capitalised forms are names of their own. -/
inductive BareContainer where
  | list
  | set
  | frozenset
  | tuple
  | dict
  | List
  | Dict
  | Tuple
  | Sequence
deriving DecidableEq, Repr

/-- The written name of a container without item types. -/
def BareContainer.name : BareContainer → String
  | list => "list"
  | set => "set"
  | frozenset => "frozenset"
  | tuple => "tuple"
  | dict => "dict"
  | List => "List"
  | Dict => "Dict"
  | Tuple => "Tuple"
  | Sequence => "Sequence"

/-- The container that is written so. -/
def BareContainer.ofName? (name : String) : Option BareContainer :=
  [list, set, frozenset, tuple, dict, List, Dict, Tuple, Sequence].find? (·.name == name)

inductive TypeExpr where
  | null
  | any
  | named (c : NamedClass)
  | bare (b : BareContainer)
  | typeVar (name : String)
  | forward (name : String) (nested : Bool)
  | union (members : List TypeExpr)
  | sequence (form : SequenceForm) (item : TypeExpr)
  | tuple (items : List TypeExpr)
  | mapping (form : MappingForm) (key value : TypeExpr)
  | applied (c : NamedClass) (args : List TypeExpr)
  | specialised (c : ClassRef) (args : List TypeExpr)
  | literal (items : List String)
  | annotated (inner : TypeExpr) (notes : List Note)
  | unexamined (inner : TypeExpr)
deriving Repr, Inhabited

namespace TypeExpr

/-- The type expression that every program knows by a name. -/
def ofName? (name : String) : Option TypeExpr :=
  match name with
  | "None" => some null
  | "Any" => some any
  | _ => ((Builtin.ofName? name).map fun b => named (.builtin b)).or
    ((BareContainer.ofName? name).map bare)

/-! ## Equality -/

mutual

/-- The type expressions are the same. -/
def beq : TypeExpr → TypeExpr → Bool
  | null, null => true
  | any, any => true
  | named c, named d => c = d
  | bare b, bare c => b = c
  | typeVar n, typeVar m => n = m
  | forward n b, forward m c => n = m && b = c
  | union as, union bs => beqAll as bs
  | sequence f a, sequence g b => f = g && beq a b
  | tuple as, tuple bs => beqAll as bs
  | mapping f k v, mapping g l w => f = g && beq k l && beq v w
  | applied c as, applied d bs => c = d && beqAll as bs
  | specialised c as, specialised d bs => c = d && beqAll as bs
  | literal xs, literal ys => xs = ys
  | annotated a ns, annotated b ms => beq a b && ns = ms
  | unexamined a, unexamined b => beq a b
  | _, _ => false

/-- The type expressions of two lists are the same one by one. -/
def beqAll : List TypeExpr → List TypeExpr → Bool
  | [], [] => true
  | a :: as, b :: bs => beq a b && beqAll as bs
  | _, _ => false

end

mutual

theorem beq_iff (a b : TypeExpr) : beq a b = true ↔ a = b := by
  cases a <;> cases b <;> simp [beq, beq_iff, beqAll_iff, and_assoc]

theorem beqAll_iff (as bs : List TypeExpr) : beqAll as bs = true ↔ as = bs := by
  cases as <;> cases bs <;> simp [beqAll, beq_iff, beqAll_iff]

end

instance : DecidableEq TypeExpr := fun a b => decidable_of_iff _ (beq_iff a b)

mutual

/-- The type expressions denote the same type: the same but for the order of the members of
unions. -/
def alike : TypeExpr → TypeExpr → Bool
  | union as, union bs => allIn as bs && bs.all fun b => someAlike as b
  | sequence f a, sequence g b => f = g && alike a b
  | tuple as, tuple bs => alikeAll as bs
  | mapping f k v, mapping g l w => f = g && alike k l && alike v w
  | applied c as, applied d bs => c = d && alikeAll as bs
  | annotated a ns, annotated b ms => alike a b && ns = ms
  | a, b => a = b

/-- The type expressions of two lists denote the same types one by one. -/
def alikeAll : List TypeExpr → List TypeExpr → Bool
  | [], [] => true
  | a :: as, b :: bs => alike a b && alikeAll as bs
  | _, _ => false

/-- Every type expression of the first list denotes the same type as one of the second. -/
def allIn : List TypeExpr → List TypeExpr → Bool
  | [], _ => true
  | a :: as, bs => bs.any (alike a) && allIn as bs

/-- Some type expression of the list denotes the same type as `b`. -/
def someAlike : List TypeExpr → TypeExpr → Bool
  | [], _ => false
  | a :: as, b => alike a b || someAlike as b

end

/-! ## Unions -/

/-- The members that a type expression brings into a union. -/
def members : TypeExpr → List TypeExpr
  | union ms => ms
  | a => [a]

/-- The list without later type expressions that denote the same type as an earlier one. -/
def distinct (as : List TypeExpr) : List TypeExpr :=
  as.foldl (fun kept a => if kept.any (alike · a) then kept else kept ++ [a]) []

/-- The union of the type expressions: unions among them are flattened, duplicates dropped, and a
union of one member is that member. -/
def unionOf (as : List TypeExpr) : TypeExpr :=
  match distinct (as.flatMap members) with
  | [a] => a
  | ms => union ms

/-- The type expression with notes; notes that it has already come first. -/
def withNotes (a : TypeExpr) (notes : List Note) : TypeExpr :=
  match a with
  | annotated inner earlier => annotated inner (earlier ++ notes)
  | a => annotated a notes

def notes : TypeExpr → List Note
  | annotated _ ns => ns
  | _ => []

/-! ## Substitution -/

mutual

/-- The type expression with type variables replaced; unions are built anew. -/
def subst (σ : String → Option TypeExpr) : TypeExpr → TypeExpr
  | typeVar n => (σ n).getD (typeVar n)
  | union ms => unionOf (substAll σ ms)
  | sequence f a => sequence f (subst σ a)
  | tuple as => tuple (substAll σ as)
  | mapping f k v => mapping f (subst σ k) (subst σ v)
  | applied c as => applied c (substAll σ as)
  | specialised c as => specialised c (substAll σ as)
  | annotated a ns => withNotes (subst σ a) ns
  | a => a

def substAll (σ : String → Option TypeExpr) : List TypeExpr → List TypeExpr
  | [] => []
  | a :: as => subst σ a :: substAll σ as

end

mutual

/-- The type variables of a type expression in order of appearance, repetitions included. -/
def typeVars : TypeExpr → List String
  | typeVar n => [n]
  | union as | tuple as | applied _ as | specialised _ as => typeVarsOf as
  | sequence _ a | annotated a _ => typeVars a
  | mapping _ k v => typeVars k ++ typeVars v
  | _ => []

def typeVarsOf : List TypeExpr → List String
  | [] => []
  | a :: as => typeVars a ++ typeVarsOf as

end

mutual

/-- The first name in the type expression that no declaration explains. -/
def unresolved? : TypeExpr → Option String
  | forward n _ => some n
  | union as | tuple as | applied _ as | specialised _ as => unresolvedIn? as
  | sequence _ a | annotated a _ => unresolved? a
  | mapping _ k v => (unresolved? k).or (unresolved? v)
  | _ => none

/-- The first name in a list of type expressions that no declaration explains. -/
def unresolvedIn? : List TypeExpr → Option String
  | [] => none
  | a :: as => (unresolved? a).or (unresolvedIn? as)

end

end TypeExpr

end ApiShape
