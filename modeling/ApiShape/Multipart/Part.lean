import ApiShape.Error
import ApiShape.Header

/-!
Parts of multipart bodies: what their headers say about them, and the value that a form binds.
-/

namespace ApiShape.Multipart

open Text

/-- A completed part. -/
structure Part where
  name : Option String := none
  filename : Option String := none
  contentType : Option String := none
  headers : Table String String := ∅
  data : List UInt8 := []
deriving Repr

/-- The bytes of CR and LF. -/
def crlf : List UInt8 := [13, 10]

/-- The headers of a block of lines. Lines without a colon are skipped, the last line of a name
counts. -/
def headerTable (block : List Char) : Table String String :=
  Table.ofList <| (lines block).filterMap fun line =>
    match cut ':' line with
    | (name, some value) =>
      some (String.ofList (lower (trim name)), String.ofList (trim value))
    | (_, none) => none

/-- The text unless it is empty. -/
def nonEmpty? (s : Option String) : Option String := s.filter (!·.isEmpty)

namespace Part

/-- The part that a header block opens, still without data. -/
def ofHeaders (headers : Table String String) : Part :=
  let disposition := (Header.read ((headers.get? "content-disposition").getD "")).params
  { name := nonEmpty? (disposition.get? "name")
    filename := disposition.get? "filename"
    contentType :=
      (nonEmpty? (headers.get? "content-type")).map fun mime => (Header.read mime).value
    headers }

/-- The part is an uploaded file. -/
def isFile (p : Part) : Bool := (nonEmpty? p.filename).isSome

/-- The part is a file input without a file. -/
def isEmptyUpload (p : Part) : Bool := p.filename == some ""

/-- The part has no file name and a content type that is no text. -/
def isBinary (p : Part) : Bool :=
  match p.filename, p.contentType with
  | none, some type => !"text/".toList.isPrefixOf type.toList
  | _, _ => false

/-- The size limit applies to the part. -/
def isLimited (p : Part) : Bool := p.isFile || p.isBinary

/-- The character set that the part's content type names. -/
def charset (p : Part) : String :=
  ((Header.read ((p.headers.get? "content-type").getD "")).params.get? "charset").getD "utf-8"

/-- The value of the part, where further character sets are known: a stream for files and binary
parts, a text for other parts. Bytes that cannot be read as text are the client's fault, other
failures of a character set are not. -/
def valueIn (further : Charsets) (p : Part) : Except Error Value :=
  if p.isFile then .ok (.payload p.contentType p.filename { content := p.data })
  else if p.isBinary then .ok (.content p.contentType { content := p.data })
  else match decodeNamed further p.charset p.data with
    | .ok s => .ok (.text s)
    | .error fault =>
      if fault.isUnreadable then .error (.multipart (.undecodable fault) p.name)
      else .error (.fault (.charset fault))

/-- The value of the part, where no further character sets are known. -/
def value (p : Part) : Except Error Value := p.valueIn fun _ => none

end Part

/-- The boundary that a content type of a multipart body names. -/
def boundaryOf (contentType : Option String) : Except Error String :=
  let header := Header.read (contentType.getD "")
  if !"multipart/".toList.isPrefixOf header.value.toList then
    .error (.multipart (.notMultipart contentType) none)
  else match nonEmpty? (header.params.get? "boundary") with
    | some boundary => .ok boundary
    | none => .error (.multipart .noBoundary none)

end ApiShape.Multipart
