import ApiShape.Api.Settings
import ApiShape.Decoder.Binding
import ApiShape.Schema.Builder

/-!
An API surface: its declarations and settings, how it names types and what it accepts. It starts
with the converters of the leaf types and takes further ones in.
-/

namespace ApiShape

open Time

/-- An API surface. Its upload limit comes from the settings, its media types from the program. -/
structure Api where
  settings : Settings := {}
  env : Environment := {}
  namer : Namer := .default
  strictNames : Bool := false
  limits : Multipart.Limits := {}
  budget : Nat := 1000

namespace Api

/-- The surface for settings that have been validated. -/
def ofSettings (settings : Settings) (env : Environment) (namer : Namer)
    (allowedTypes : Option (List String)) : Api where
  settings := settings
  env := env
  namer := namer
  strictNames := settings.strictSchemaNames
  limits := ⟨settings.maxUploadSize, allowedTypes⟩

/-- The state of a surface that starts with the converters of the leaf types. -/
def start (api : Api) (zones : ZoneDirectory) : State :=
  { registry := .standard zones api.settings.lenientPrimitives }

/-- What schema synthesis is told. -/
def blueprint (api : Api) : Blueprint := ⟨api.env, api.namer, api.strictNames, api.budget⟩

/-- What decoding is told. -/
def decoder (api : Api) : Decoder := ⟨api.env, api.budget, api.limits⟩

def described (a : TypeExpr) : Action Descriptor :=
  Action.ofExcept ((describe a).mapError .unresolvedReference)

/-- Installs a converter made from a parser. -/
def install (a : TypeExpr) (parse : String → Except Error Value) (default : Option Value)
    (schema : Schema) (lenient strict : Bool) : Action Installed := do
  let d ← described a
  let (registry, installed) := (← get).registry.register d parse default schema lenient strict
  modify fun s => { s with registry }
  return installed

/-- Registers a converter made from a parser; it is lenient if the registry is. -/
def register (a : TypeExpr) (parse : String → Except Error Value) (default : Option Value)
    (schema : Schema) : Action Installed := do
  install a parse default schema (← get).registry.lenient false

/-- Gives a type the converter of another one. -/
def share (api : Api) (source target : TypeExpr) : Action Installed := do
  let installed ← Action.resolve api.env (← described source)
  let d ← described target
  modify fun s => { s with registry := s.registry.add d installed }
  return installed

/-- The converter of a type, through wrappers where needed. -/
def converter (api : Api) (a : TypeExpr) : Action Installed := do
  api.env.converterFor api.budget (← described a)

def build (api : Api) (a : TypeExpr) : Action Schema := do api.blueprint.build (← described a)

/-- The published schema of a type; named types are published as references. -/
def schema (api : Api) (a : TypeExpr) : Action Document := do
  return (← api.build a).render api.settings.refBase

/-- The published table of named schemas. -/
def components (api : Api) (s : State) : Document :=
  .object [("schemas", Blueprint.components s api.settings.refBase)]

end Api

end ApiShape
