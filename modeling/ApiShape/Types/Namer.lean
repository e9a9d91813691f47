import ApiShape.Types.Descriptor

/-!
Names of schemas. The default name of a type is its class name followed by the names of its
arguments; characters that a component name may not hold are replaced.
-/

namespace ApiShape

/-- Gives types their names. -/
abbrev Namer := Descriptor → String

namespace Namer

/-- A character that component names may hold. -/
def isSafe (c : Char) : Bool := c.isAlphanum || c = '_' || c = '.' || c = '-'

/-- Replaces every run of unsafe characters by `delimiter`. -/
def sanitiseFrom (delimiter : List Char) (inRun : Bool) : List Char → List Char
  | [] => []
  | c :: rest =>
    if isSafe c then c :: sanitiseFrom delimiter false rest
    else if inRun then sanitiseFrom delimiter true rest
    else delimiter ++ sanitiseFrom delimiter true rest

/-- Replaces every run of unsafe characters of a string by `delimiter`. -/
def sanitise (delimiter s : String) : String :=
  String.ofList (sanitiseFrom delimiter.toList false s.toList)

mutual

/-- The name of a type, nullability included. `base` names the origin. -/
def segment (base : Origin → String) (delimiter : String) : Descriptor → String
  | ⟨origin, args, nullable⟩ =>
    let head := if origin = .union then "OneOf" else base origin
    let text := delimiter.intercalate (head :: segments base delimiter args)
    sanitise delimiter (if nullable then "Optional" ++ delimiter ++ text else text)

/-- The names of the types of a list. -/
def segments (base : Origin → String) (delimiter : String) : List Descriptor → List String
  | [] => []
  | d :: ds => segment base delimiter d :: segments base delimiter ds

end

/-- Names by class name and arguments, joined by `delimiter`. -/
def joined (delimiter : String) : Namer := fun d => segment Origin.name delimiter d.nonNull

/-- Names by class name and arguments, joined by underscores. -/
def default : Namer := joined "_"

/-- The module-qualified name of an origin; origins of the language itself keep their bare name. -/
def qualifiedBase (origin : Origin) : String :=
  match origin.path? with
  | some (module, name) =>
    if module.isEmpty || name.isEmpty || module == "builtins" then origin.name
    else module ++ "." ++ name.replace ".<locals>" ""
  | none => origin.name

/-- Names by module-qualified class name and arguments. -/
def qualified : Namer := fun d => segment qualifiedBase "_" d.nonNull

end Namer

end ApiShape
