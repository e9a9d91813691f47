/-!
Published documents: texts, flags, lists and objects. The order of an object's members carries no
meaning, so documents are compared by `Document.same`.
-/

namespace ApiShape

/-- A document in the data model of JSON, as far as API descriptions need it. -/
inductive Document where
  | text (s : String)
  | flag (b : Bool)
  | list (items : List Document)
  | object (members : List (String × Document))
deriving Repr, Inhabited

namespace Document

/-- The value of a member. -/
def member? (name : String) : List (String × Document) → Option Document
  | [] => none
  | (n, d) :: rest => if n = name then some d else member? name rest

mutual

/-- The documents are equal, the order of members aside. -/
def same : Document → Document → Bool
  | text s, text t => s = t
  | flag b, flag c => b = c
  | list as, list bs => sameAll as bs
  | object ms, object ns => ms.length = ns.length && sameIn ms ns
  | _, _ => false

/-- The documents of two lists are equal one by one. -/
def sameAll : List Document → List Document → Bool
  | [], [] => true
  | a :: as, b :: bs => same a b && sameAll as bs
  | _, _ => false

/-- Every member is present in `ns` with an equal value. -/
def sameIn : List (String × Document) → List (String × Document) → Bool
  | [], _ => true
  | (name, d) :: rest, ns =>
    (match member? name ns with
      | some e => same d e
      | none => false) && sameIn rest ns

end

end Document

end ApiShape
