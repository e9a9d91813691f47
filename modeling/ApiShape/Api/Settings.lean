import ApiShape.Header
import ApiShape.Number.Literal
import ApiShape.Schema.Basic

/-!
Settings of a program and where they come from: variables that hold texts. Settings are validated in
a fixed order, the environment first and the upload limit last.
-/

namespace ApiShape

open Number

/-- The settings of a program. -/
structure Settings where
  environment : String := "dev"
  debug : Bool := false
  logLevel : String := "INFO"
  lenientPrimitives : Bool := true
  strictSchemaNames : Bool := false
  refBase : String := Schema.standardRefBase
  maxUploadSize : Option Int := none
deriving DecidableEq, Repr

/-- The variables that settings are loaded from, as far as they are set. -/
structure Variables where
  environment : Option String := none
  debug : Option String := none
  logLevel : Option String := none
  lenientPrimitives : Option String := none
  strictSchemaNames : Option String := none
  refBase : Option String := none
  maxUploadSize : Option String := none
deriving DecidableEq, Repr

namespace Settings

private def refuse (f : SettingsFault) : Except Error Unit := .error (.fault (.settings f))

/-- The environments that a program runs in. -/
def environments : List String := ["dev", "prod"]

/-- The levels that settings may name. -/
def logLevels : List String := ["CRITICAL", "ERROR", "WARNING", "INFO", "DEBUG"]

/-- Fails with the first reason why the settings are unfit. -/
def validate (s : Settings) : Except Error Unit :=
  if !environments.contains s.environment then refuse (.environment s.environment)
  else if s.environment == "prod" && s.debug then refuse .debugInProduction
  else if !logLevels.contains s.logLevel then refuse (.logLevel s.logLevel)
  else if s.maxUploadSize.any (· ≤ 0) then refuse .uploadLimit
  else .ok ()

/-! ## Loading -/

/-- The texts that switch a setting on. -/
def onTexts : List String := ["1", "true", "yes", "on"]

/-- A switch: any text but those that switch it on switches it off. -/
def readSwitch (raw : Option String) (default : Bool) : Bool :=
  match raw with
  | none => default
  | some text => onTexts.contains (lowerCase (trimmed text))

/-- The upload limit; an empty text means none. -/
def readLimit (raw : Option String) : Except Error (Option Int) :=
  match raw with
  | none | some "" => .ok none
  | some text => ((Literal.read text).mapError Error.fault).map some

/-- Loads settings and validates them. -/
def load (vars : Variables) : Except Error Settings := do
  let maxUploadSize ← readLimit vars.maxUploadSize
  let s : Settings := {
    environment := lowerCase (vars.environment.getD "dev")
    debug := readSwitch vars.debug false
    logLevel := upperCase (vars.logLevel.getD "INFO")
    lenientPrimitives := readSwitch vars.lenientPrimitives true
    strictSchemaNames := readSwitch vars.strictSchemaNames false
    refBase := vars.refBase.getD Schema.standardRefBase
    maxUploadSize }
  s.validate
  return s

/-! ## Reporting -/

/-- The rank of a named level. -/
def rank? : String → Option Nat
  | "CRITICAL" | "FATAL" => some 50
  | "ERROR" => some 40
  | "WARNING" | "WARN" => some 30
  | "INFO" => some 20
  | "DEBUG" => some 10
  | "NOTSET" => some 0
  | _ => none

/-- The rank from which reports are kept under the settings. -/
def reportRank (s : Settings) : Except Error Nat :=
  let name := if s.debug then "DEBUG" else s.logLevel
  match rank? name with
  | some rank => .ok rank
  | none => .error (.fault (.settings (.unknownLevel name)))

end Settings

end ApiShape
