import ApiShape.Multipart.Part

/-!
An incremental reader of multipart bodies. It is fed chunk by chunk and gives out every part as soon
as the boundary behind it has been seen. Between feeds it holds back only the bytes that could still
turn out to belong to a delimiter or an unfinished header block.
-/

namespace ApiShape.Multipart

open Text

/-- What the reader expects next. In a body it knows the part that it fills. -/
inductive Phase where
  | preamble
  | boundary
  | headers
  | body (part : Part)
  | done
deriving Repr

/-- The limits on uploads: the largest size of a file or binary part, and the media types that
files may have. -/
structure Limits where
  maxPartSize : Option Int := none
  allowedTypes : Option (List String) := none
deriving Repr

/-- The type of a file is allowed. -/
def Limits.allows (l : Limits) (p : Part) : Bool :=
  match l.allowedTypes, p.contentType with
  | none, _ => true
  | some allowed, some type => allowed.contains type
  | some _, none => false

/-- The state of a reader. `data` is what has been moved to the open part. -/
structure Reader where
  boundary : List UInt8
  limits : Limits := {}
  phase : Phase := .preamble
  buffer : List UInt8 := []
  data : List UInt8 := []
deriving Repr

namespace Reader

/-- The bytes in front of every part. -/
def delimiter (r : Reader) : List UInt8 := 45 :: 45 :: r.boundary

/-- The bytes that end the data of a part. -/
def marker (r : Reader) : List UInt8 := crlf ++ r.delimiter

/-- The closing boundary has been read. -/
def isDone (r : Reader) : Bool :=
  match r.phase with
  | .done => true
  | _ => false

/-- What a step of the reader comes to. -/
inductive Step where
  /-- More bytes are needed. -/
  | wait (r : Reader)
  /-- The reader moved on, perhaps past a completed part. -/
  | next (r : Reader) (part : Option Part)
  | fail (e : Error) (r : Reader)

/-- The last `count` bytes. -/
def keepLast (count : Nat) (bytes : List UInt8) : List UInt8 := bytes.drop (bytes.length - count)

/-- Looks for the first delimiter. -/
def skipPreamble (r : Reader) : Step :=
  match cutAt? r.delimiter r.buffer with
  | none => .wait { r with buffer := keepLast (r.delimiter.length - 1) r.buffer }
  | some (_, rest) => .next { r with buffer := rest, phase := .boundary } none

/-- Looks at the two bytes behind a delimiter. -/
def afterBoundary (r : Reader) : Step :=
  match r.buffer with
  | a :: b :: rest =>
    if [a, b] = [45, 45] then .next { r with buffer := [], phase := .done } none
    else if [a, b] = crlf then .next { r with buffer := rest, phase := .headers } none
    else .fail (.multipart .malformedBoundary none) { r with buffer := rest }
  | _ => .wait r

/-- The header block at the head of the buffer and the bytes behind the blank line that ends it. -/
def headerBlock? (buffer : List UInt8) : Option (List UInt8 × List UInt8) :=
  if crlf.isPrefixOf buffer then some ([], buffer.drop 2) else cutAt? (crlf ++ crlf) buffer

/-- Reads a header block and opens the part. -/
def readHeaders (r : Reader) : Step :=
  match headerBlock? r.buffer with
  | none => .wait r
  | some (block, rest) =>
    let part := Part.ofHeaders (headerTable (Utf8.decodeLossy block))
    if part.isFile && !r.limits.allows part then
      .fail (.multipart (.unsupportedFile part.contentType) part.name) { r with buffer := rest }
    else .next { r with buffer := rest, phase := .body part, data := [] } none

/-- The part has grown past its limit. -/
def isTooLarge (r : Reader) (part : Part) (data : List UInt8) : Bool :=
  match r.limits.maxPartSize with
  | none => false
  | some limit => part.isLimited && limit < data.length

/-- Moves bytes to the open part up to the marker that ends it. -/
def readBody (r : Reader) (part : Part) : Step :=
  let grow (moved rest : List UInt8) (proceed : Reader → Step) : Step :=
    let data := r.data ++ moved
    let r := { r with buffer := rest, data }
    if r.isTooLarge part data then .fail (.multipart .tooLarge part.name) r else proceed r
  match cutAt? r.marker r.buffer with
  | none =>
    let safe := r.buffer.length - (r.marker.length - 1)
    if safe = 0 then .wait r else grow (r.buffer.take safe) (r.buffer.drop safe) .wait
  | some (moved, rest) => grow moved rest fun r =>
    .next { r with phase := .boundary, data := [] } (some { part with data := r.data })

def step (r : Reader) : Step :=
  match r.phase with
  | .preamble => r.skipPreamble
  | .boundary => r.afterBoundary
  | .headers => r.readHeaders
  | .body part => r.readBody part
  | .done => .wait { r with buffer := [] }

/-! ## Progress -/

/-- A step that moves on uses up bytes of the buffer. -/
theorem buffer_length_lt_of_step {r r' : Reader} {part : Option Part}
    (h : r.step = .next r' part) : r'.buffer.length < r.buffer.length := by
  unfold step at h
  -- one case a phase; in each that moves on, the search of the buffer says what was cut off
  split at h
  · unfold skipPreamble at h
    split at h
    · simp at h
    · next hcut =>
      injection h with h
      subst h
      have := length_of_cutAt? hcut
      simp only [delimiter, List.length_cons] at this ⊢
      omega
  · unfold afterBoundary at h
    split at h
    · next hb =>
      split at h
      · injection h with h; subst h; simp [hb]
      · split at h
        · injection h with h; subst h; simp only [hb, List.length_cons]; omega
        · simp at h
    · simp at h
  · unfold readHeaders at h
    split at h
    · simp at h
    · next block rest hblock =>
      -- a block is empty, closed by the line break that it begins with, or by an empty line
      have hlt : rest.length < r.buffer.length := by
        unfold headerBlock? at hblock
        split at hblock
        · next hp =>
          have hlen := (List.isPrefixOf_iff_prefix.1 hp).length_le
          simp only [Option.some.injEq, Prod.mk.injEq] at hblock
          obtain ⟨_, rfl⟩ := hblock
          simp only [crlf, List.length_cons, List.length_nil, List.length_drop] at hlen ⊢
          omega
        · have := length_of_cutAt? hblock
          simp only [crlf, List.cons_append, List.nil_append, List.length_cons,
            List.length_nil] at this
          omega
      simp only at h
      split at h
      · simp at h
      · injection h with h; subst h; exact hlt
  · next part' _ =>
    unfold readBody at h
    simp only at h
    split at h
    · split at h
      · simp at h
      · split at h <;> simp at h
    · next hcut =>
      split at h
      · simp at h
      · injection h with h
        subst h
        have := length_of_cutAt? hcut
        simp only [marker, crlf, List.cons_append, List.length_cons] at this ⊢
        omega
  · simp at h

/-! ## Feeding -/

/-- Steps until more bytes are needed, collecting the completed parts. -/
def run (r : Reader) : Except Error (List Part) × Reader :=
  match _h : r.step with
  | .wait r => (.ok [], r)
  | .fail e r => (.error e, r)
  | .next r' part =>
    match run r' with
    | (.ok parts, final) => (.ok (part.toList ++ parts), final)
    | (.error e, final) => (.error e, final)
termination_by r.buffer.length
decreasing_by exact buffer_length_lt_of_step _h

/-- Takes in a chunk and gives out the parts that it completes. A reader that is done ignores it. -/
def feed (r : Reader) (chunk : List UInt8) : Except Error (List Part) × Reader :=
  if r.isDone then (.ok [], r) else run { r with buffer := r.buffer ++ chunk }

/-- Fails unless the closing boundary has been read. -/
def close (r : Reader) : Except Error Unit :=
  if r.isDone then .ok () else .error (.multipart .unfinished none)

/-- A reader for the boundary, which has to be Latin-1 text. -/
def forBoundary (boundary : String) (limits : Limits) : Except Error Reader :=
  match encodeLatin1From 0 boundary.toList with
  | .ok bytes => .ok { boundary := bytes, limits }
  | .error (chars, position) => .error (.fault (.notLatin1 chars position))

end Reader

end ApiShape.Multipart
