import ApiShape.Fault
import ApiShape.Schema.Basic
import ApiShape.Value.Printed

/-!
Errors of schema synthesis and decoding. Errors caused by request data carry the field and the value
at fault; configuration errors carry the type. An error may carry the one that caused it.
-/

namespace ApiShape

/-- What an error about a type names. -/
inductive Subject where
  | described (d : Descriptor)
  | unresolved (name : UnresolvedName)
  | text (s : String)
deriving Repr

/-- The type that an error names, in words. -/
def Subject.printed : Subject → String
  | described d => d.text
  | unresolved ⟨name, nested⟩ => forwardText name nested
  | text s => s

/-- Why a multipart body is refused. -/
inductive MultipartFault where
  | notMultipart (contentType : Option String)
  | noBoundary
  | malformedBoundary
  | unfinished
  | tooLarge
  | unsupportedFile (contentType : Option String)
  | undecodable (fault : Text.CharsetFault)
  | other (message : String)
deriving Repr

/-- The message for a multipart body that is refused. -/
def MultipartFault.message : MultipartFault → String
  | notMultipart contentType => s!"Expected a multipart body, got {shownText? contentType}"
  | noBoundary => "Multipart content type has no boundary"
  | malformedBoundary => "Malformed multipart boundary"
  | unfinished => "Multipart body ended before the closing boundary"
  | tooLarge => "file too large"
  | unsupportedFile contentType =>
    s!"Unsupported media type {shownText? contentType} for file part"
  | undecodable fault => s!"Form field could not be decoded: {fault.message}"
  | other message => message

/-- Two different schemas under one name. -/
structure Collision where
  name : String
  existing : Schema
  replacement : Schema
deriving Repr

/-- The message for a collision of names. -/
def Collision.message (c : Collision) : String :=
  s!"Schema with name {c.name} already exists, and is not the same as the new one, replacing..."

inductive Error where
  /-- A fault of a reader, a constructor or a declaration. -/
  | fault (f : Fault)
  /-- Nothing handles the type. -/
  | unhandledType (type : Subject) (detail : Option String) (cause : Option Error)
  /-- A field without value, default and null. -/
  | requiredField (field : String)
  /-- The raw value of a field does not fit its type. -/
  | parse (field : String) (value : Value) (type : Subject) (reason : String) (cause : Option Error)
  /-- A multipart body is malformed or breaks an upload rule. -/
  | multipart (fault : MultipartFault) (field : Option String)
  /-- A body of a content type that is not accepted. -/
  | unsupportedMediaType (contentType : Option String) (accepted : List String)
  | namingCollision (c : Collision)
  /-- Another error caused by request data. -/
  | client (code message : String) (field : Option String) (value : Value)
  /-- Another error. -/
  | general (code message : String)
  /-- The recursion did not end within its budget. -/
  | exhausted
deriving Repr

namespace Error

/-- Nothing handles the described type. -/
def unhandled (d : Descriptor) (detail : Option String) : Error :=
  unhandledType (.described d) detail none

/-- A name in a type that no declaration explains. -/
def unresolvedReference (name : UnresolvedName) : Error :=
  unhandledType (.unresolved name) (some "unresolved forward reference") none

def message : Error → String
  | fault f => f.message
  | unhandledType type detail _ =>
    let text := s!"Unhandled Type {type.printed}"
    match detail with
    | none | some "" => text
    | some detail => s!"{text}: {detail}"
  | requiredField field => s!"No provided value for field {field}"
  | parse field value _ reason _ =>
    let text := s!"Could not parse field {field} with value '{value.printed}'"
    if reason.isEmpty then text else s!"{text}: {reason}"
  | multipart problem _ => problem.message
  | unsupportedMediaType contentType accepted =>
    let types := ", ".intercalate (accepted.map Text.quoted)
    s!"Unsupported content type {shownText? contentType}, expected one of [{types}]"
  | namingCollision c => c.message
  | client _ message _ _ | general _ message => message
  | exhausted => "maximum recursion depth exceeded"

/-- What identifies an error to programs: its code and the HTTP status. Faults have none. -/
def code? : Error → Option (String × Nat)
  | fault _ | exhausted => none
  | unhandledType .. => some ("UNHANDLED_TYPE", 500)
  | requiredField _ => some ("REQUIRED_FIELD", 400)
  | parse .. => some ("PARSE_ERROR", 400)
  | multipart .. => some ("MULTIPART_ERROR", 400)
  | unsupportedMediaType .. => some ("UNSUPPORTED_MEDIA_TYPE", 415)
  | namingCollision _ => some ("SCHEMA_NAMING_COLLISION", 500)
  | client code .. => some (code, 400)
  | general code _ => some (code, 500)

/-- What a client is told about its data: the field, the value, and the kind of the problem. -/
structure ClientDetail where
  field : Option String
  value : Value
  problem : String
deriving Repr

/-- The detail of an error caused by request data. -/
def clientDetail? : Error → Option ClientDetail
  | requiredField field => some ⟨some field, .null, "missing"⟩
  | parse field value _ _ _ => some ⟨some field, value, "parsing"⟩
  | multipart _ field => some ⟨field, .null, "multipart"⟩
  | unsupportedMediaType contentType _ => some ⟨none, .ofText? contentType, "media_type"⟩
  | client _ _ field value => some ⟨field, value, "value_error"⟩
  | _ => none

/-- The error is caused by request data. -/
def isClient (e : Error) : Bool := e.clientDetail?.isSome

/-- The error says that a raw text is unfit, so that conversion may fall back. -/
def isUnfitText : Error → Bool
  | fault f => f.isUnfitText
  | _ => false

def cause? : Error → Option Error
  | unhandledType _ _ cause | parse _ _ _ _ cause => cause
  | _ => none

/-- The type that an error names. -/
def type? : Error → Option Subject
  | unhandledType type _ _ | parse _ _ type _ _ => some type
  | _ => none

end Error

end ApiShape
