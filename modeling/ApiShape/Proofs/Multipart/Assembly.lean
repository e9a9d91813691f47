import ApiShape.Proofs.Multipart.Chunking
import ApiShape.Proofs.Text.Utf8
import Mathlib.Data.List.Infix

/-!
# A multipart body that was assembled is read back

A client sends parts (`Outgoing`) between boundaries, with text in front of the first boundary and
behind the last one (`assemble`). A reader without limits gives out these parts, whatever a payload
looks like as long as the marker does not occur in it, and however the body is cut into chunks.

Three facts say that a reader finds the end of each piece where it was put, and not before:

* **`headerBlock?_of_lines`** — a header block ends behind its last line, and `headerTable_of_lines`
  reads its headers back;
* `clear_payload` — a payload ends at the marker behind it;
* `clear_preamble` — the first delimiter is that of the first part.

`outcome_part` runs a reader over one part, `outcome_following` over all of them by induction, and
**`outcome_assemble`** over a whole body.
-/

namespace ApiShape.Multipart

open Text Reader

/-! ## Assembling a body -/

/-- A part as it is sent. -/
structure Outgoing where
  headers : List (String × String)
  payload : List UInt8

def IsAscii (s : String) : Prop := ∀ c ∈ s.toList, c.toNat < 128

instance : DecidablePred IsAscii := fun s =>
  List.decidableBAll (fun c : Char => c.toNat < 128) s.toList

def IsLine (s : String) : Prop := '\r' ∉ s.toList ∧ '\n' ∉ s.toList

instance : DecidablePred IsLine := fun s =>
  inferInstanceAs (Decidable ('\r' ∉ s.toList ∧ '\n' ∉ s.toList))

namespace Outgoing

/-- The part with its header lines, between two boundaries. -/
def bytes (p : Outgoing) : List UInt8 :=
  p.headers.flatMap (fun h => Utf8.encode (h.1 ++ ": " ++ h.2 ++ "\r\n")) ++
    crlf ++ p.payload ++ crlf

/-- The part can be sent: its header names and values stay in their places on their lines, and its
payload cannot be taken to end early. -/
structure IsSendable (boundary : String) (p : Outgoing) : Prop where
  names : ∀ h ∈ p.headers, ':' ∉ h.1.toList ∧ IsLine h.1
  values : ∀ h ∈ p.headers, IsLine h.2
  payload : ¬ Utf8.encode ("\r\n" ++ "--" ++ boundary) <:+: p.payload

instance (boundary : String) : DecidablePred (IsSendable boundary) := fun p =>
  decidable_of_iff ((∀ h ∈ p.headers, ':' ∉ h.1.toList ∧ IsLine h.1) ∧
      (∀ h ∈ p.headers, IsLine h.2) ∧ ¬ Utf8.encode ("\r\n" ++ "--" ++ boundary) <:+: p.payload)
    ⟨fun ⟨names, values, payload⟩ => ⟨names, values, payload⟩,
      fun h => ⟨h.names, h.values, h.payload⟩⟩

/-- The headers by their names in lower case, without blanks around names and values. -/
def headerTable (p : Outgoing) : Table String String :=
  Table.ofList (p.headers.map fun h => (lowerCase (trimmed h.1), trimmed h.2))

def disposition (p : Outgoing) : Table String String :=
  (Header.read ((p.headerTable.get? "content-disposition").getD "")).params

/-- The part as it is received. Its name and its content type are those of the headers, unless they
are empty. -/
def received (p : Outgoing) : Part where
  name := nonEmpty? (p.disposition.get? "name")
  filename := p.disposition.get? "filename"
  contentType :=
    (nonEmpty? (p.headerTable.get? "content-type")).map fun type => (Header.read type).value
  headers := p.headerTable
  data := p.payload

end Outgoing

/-- The parts, each behind a boundary, and the closing boundary. -/
def assemble (boundary : String) (parts : List Outgoing) : List UInt8 :=
  parts.flatMap (fun p => Utf8.encode ("--" ++ boundary ++ "\r\n") ++ p.bytes) ++
    Utf8.encode ("--" ++ boundary ++ "--\r\n")

/-! ## Header blocks

A blank line ends a header block. Header lines hold at least a colon and neither CR nor LF, so no
blank line stands among them: `Clear (crlf ++ crlf)` is followed line by line. -/

/-- A CRLF with more than a CR behind it is no blank line. -/
theorem clear_crlf {b : UInt8} (hb : b ≠ 13) (s : List UInt8) :
    Clear (crlf ++ crlf) crlf (b :: s) := by
  -- at the CR the marker needs a CR behind the CRLF, and at the LF it cannot begin
  refine ⟨fun hp => ?_, fun hp => ?_, trivial⟩
  · have hrest := (List.cons_prefix_cons.1 (List.cons_prefix_cons.1 hp).2).2
    exact hb (List.cons_prefix_cons.1 hrest).1.symm
  · exact absurd (List.cons_prefix_cons.1 hp).1 (by decide)

/-- A block of lines that are not empty does not begin with a CR. -/
theorem exists_cons_block {line : List UInt8} (hline : line ≠ [] ∧ 13 ∉ line)
    (rest : List (List UInt8)) (s : List UInt8) :
    ∃ b tail, crlf.intercalate (line :: rest) ++ s = b :: tail ∧ b ≠ 13 := by
  obtain ⟨b, line, rfl⟩ := List.exists_cons_of_ne_nil hline.1
  have hb : b ≠ 13 := fun heq => hline.2 (heq ▸ List.mem_cons_self)
  cases rest with
  | nil => exact ⟨b, line ++ s, by rw [List.intercalate_singleton, List.cons_append], hb⟩
  | cons next rest =>
    rw [List.intercalate_cons_cons, List.cons_append, List.cons_append, List.cons_append]
    exact ⟨b, _, rfl, hb⟩

/-- Among lines that are not empty stands no blank line. -/
theorem clear_block {block : List (List UInt8)} (hblock : ∀ line ∈ block, line ≠ [] ∧ 13 ∉ line)
    (s : List UInt8) : Clear (crlf ++ crlf) (crlf.intercalate block) s := by
  induction block with
  | nil => trivial
  | cons line rest ih =>
    have hline := hblock line List.mem_cons_self
    have hrest : ∀ l ∈ rest, l ≠ [] ∧ 13 ∉ l :=
      fun l hl => hblock l (List.mem_cons_of_mem line hl)
    cases rest with
    | nil =>
      rw [List.intercalate_singleton]
      exact clear_of_not_mem hline.2 _ s
    -- the CRLF between two lines is followed by the first byte of the next line, never by a CR
    | cons next rest =>
      obtain ⟨b, tail, hnext, hb⟩ := exists_cons_block (hrest next List.mem_cons_self) rest s
      rw [List.intercalate_cons_cons, clear_append_iff, clear_append_iff, hnext]
      exact ⟨⟨clear_of_not_mem hline.2 _ _, clear_crlf hb tail⟩, ih hrest⟩

theorem flatMap_append_crlf (line : List UInt8) (rest : List (List UInt8)) :
    (line :: rest).flatMap (· ++ crlf) = crlf.intercalate (line :: rest) ++ crlf := by
  induction rest generalizing line with
  | nil => rw [List.flatMap_singleton, List.intercalate_singleton]
  | cons next rest ih =>
    rw [List.flatMap_cons, ih next, List.intercalate_cons_cons]
    simp only [List.append_assoc]

/-- **A header block ends behind its last line.** -/
theorem headerBlock?_of_lines {block : List (List UInt8)}
    (hblock : ∀ line ∈ block, line ≠ [] ∧ 13 ∉ line) (s : List UInt8) :
    headerBlock? (block.flatMap (· ++ crlf) ++ (crlf ++ s)) = some (crlf.intercalate block, s) := by
  cases block with
  -- a block without lines is a blank line at once, which the reader looks for first
  | nil => rfl
  | cons line rest =>
    obtain ⟨b, tail, hfirst, hb⟩ :=
      exists_cons_block (hblock line List.mem_cons_self) rest (crlf ++ crlf ++ s)
    have hstart :
        ¬ crlf.isPrefixOf (crlf.intercalate (line :: rest) ++ (crlf ++ crlf ++ s)) = true := by
      rw [List.isPrefixOf_iff_prefix, hfirst]
      exact fun hp => hb (List.cons_prefix_cons.1 hp).1.symm
    have hassoc : crlf.intercalate (line :: rest) ++ crlf ++ (crlf ++ s)
        = crlf.intercalate (line :: rest) ++ (crlf ++ crlf ++ s) := by simp only [List.append_assoc]
    rw [flatMap_append_crlf, hassoc, headerBlock?, if_neg hstart]
    exact (clear_block hblock _).cutAt?_marker

/-! ## Header lines

The lines of a block are read as they were written, and each is cut at its first colon. -/

def headerLine (header : String × String) : List Char :=
  header.1.toList ++ ':' :: ' ' :: header.2.toList

def headerBytes (header : String × String) : List UInt8 :=
  (headerLine header).flatMap String.utf8EncodeChar

/-- A header line is sent as its bytes. -/
theorem encode_headerLine (header : String × String) :
    Utf8.encode (header.1 ++ ": " ++ header.2 ++ "\r\n") = headerBytes header ++ crlf := by
  have hline : (header.1 ++ ": " ++ header.2 ++ "\r\n").toList
      = headerLine header ++ ['\r', '\n'] := by
    simp only [String.toList_append, headerLine, List.append_assoc]
    rfl
  rw [Utf8.encode_eq_flatMap, hline, List.flatMap_append]
  rfl

/-- Encoding joined texts is joining the encoded texts. -/
theorem flatMap_intercalate {α β : Type} (f : α → List β) (sep : List α) (texts : List (List α)) :
    (sep.intercalate texts).flatMap f = (sep.flatMap f).intercalate (texts.map (·.flatMap f)) := by
  induction texts with
  | nil => rfl
  | cons text rest ih =>
    cases rest with
    | nil => simp only [List.map_cons, List.map_nil, List.intercalate_singleton]
    | cons next rest =>
      rw [List.intercalate_cons_cons, List.flatMap_append, List.flatMap_append, ih, List.map_cons,
        List.map_cons, List.map_cons, List.intercalate_cons_cons]

/-- **The table of a header block is that of its headers.** -/
theorem headerTable_of_lines {headers : List (String × String)}
    (hnames : ∀ h ∈ headers, ':' ∉ h.1.toList) (hlines : ∀ h ∈ headers, '\r' ∉ headerLine h) :
    headerTable (Utf8.decodeLossy (crlf.intercalate (headers.map headerBytes))) =
      Table.ofList (headers.map fun h => (lowerCase (trimmed h.1), trimmed h.2)) := by
  have htext : crlf.intercalate (headers.map headerBytes)
      = (['\r', '\n'].intercalate (headers.map headerLine)).flatMap String.utf8EncodeChar := by
    rw [flatMap_intercalate, List.map_map]
    rfl
  rw [htext, Utf8.decodeLossy_flatMap, headerTable]
  cases headers with
  | nil => rfl
  | cons header rest =>
    have hread : lines (['\r', '\n'].intercalate ((header :: rest).map headerLine))
        = (header :: rest).map headerLine := by
      refine lines_intercalate (List.cons_ne_nil _ _) fun line hline => ?_
      obtain ⟨h, hh, rfl⟩ := List.mem_map.1 hline
      exact hlines h hh
    rw [hread, List.filterMap_map]
    congr 1
    -- the name has no colon, and the blank that was put behind the colon is trimmed away
    refine List.filterMap_eq_map_iff_forall_eq_some.2 fun h hh => ?_
    have hblank : isBlank ' ' = true := by decide
    simp only [Function.comp_apply, headerLine, cut_append (hnames h hh), trim_cons hblank,
      lowerCase, trimmed, String.toList_ofList]

/-! ## Boundaries

A boundary without line breaks gives a marker in which the CR at its head does not come again, so no
occurrence of it runs over the end of a payload into the marker behind it. -/

variable {boundary : String}

/-- The bytes in front of every part. -/
def delimiterOf (boundary : String) : List UInt8 := 45 :: 45 :: Utf8.encode boundary

theorem encode_delimiter (boundary : String) :
    Utf8.encode ("--" ++ boundary) = delimiterOf boundary := by
  have hdashes : Utf8.encode "--" = [45, 45] := by
    rw [Utf8.encode_eq_flatMap]
    rfl
  rw [Utf8.encode_append, hdashes]
  rfl

theorem encode_crlf : Utf8.encode "\r\n" = crlf := by
  rw [Utf8.encode_eq_flatMap]
  rfl

/-- No byte of text without line breaks is a CR or an LF. -/
theorem not_mem_encode {text : String} (h : IsLine text) :
    13 ∉ Utf8.encode text ∧ 10 ∉ Utf8.encode text := by
  rw [Utf8.encode_eq_flatMap]
  exact ⟨fun hmem => h.1 (Utf8.mem_of_mem_flatMap (c := '\r') (by decide) hmem),
    fun hmem => h.2 (Utf8.mem_of_mem_flatMap (c := '\n') (by decide) hmem)⟩

/-- **A payload ends where its marker was put.** -/
theorem clear_payload (hline : IsLine boundary) {p : Outgoing} (hp : p.IsSendable boundary)
    (s : List UInt8) :
    Clear (crlf ++ delimiterOf boundary) p.payload (crlf ++ delimiterOf boundary ++ s) := by
  have hpayload := hp.payload
  rw [String.append_assoc, Utf8.encode_append, encode_crlf, encode_delimiter] at hpayload
  refine clear_of_head_not_mem ?_ hpayload s
  simp [delimiterOf, (not_mem_encode hline).1]

/-- **The first delimiter is that of the first part.** -/
theorem clear_preamble (hline : IsLine boundary) {preamble : List UInt8}
    (hend : preamble = [] ∨ crlf <:+ preamble)
    (hinside : ¬ Utf8.encode ("--" ++ boundary) <:+: preamble) (s : List UInt8) :
    Clear (delimiterOf boundary) preamble s := by
  rw [encode_delimiter] at hinside
  -- the delimiter has no LF in it, so it cannot lie across the end of the preamble
  have hlast : preamble = [] ∨ [10] <:+ preamble :=
    hend.imp_right fun h => (List.suffix_append [13] [10]).trans h
  refine clear_of_last_not_mem ?_ hinside hlast s
  simp [delimiterOf, (not_mem_encode hline).2]

/-! ## Reading a part -/

namespace Outgoing

variable {p : Outgoing}

/-- The header lines without the CRLF behind the last one. -/
def block (p : Outgoing) : List UInt8 := crlf.intercalate (p.headers.map headerBytes)

/-- A part is sent as its header lines, an empty line and its payload. -/
theorem bytes_eq (p : Outgoing) :
    p.bytes = (p.headers.map headerBytes).flatMap (· ++ crlf) ++ (crlf ++ (p.payload ++ crlf)) := by
  simp only [bytes, encode_headerLine, List.flatMap_map, List.append_assoc]

theorem IsSendable.headerLine (hp : p.IsSendable boundary) {h : String × String}
    (hh : h ∈ p.headers) : '\r' ∉ headerLine h := by
  have hname := (hp.names h hh).2.1
  have hvalue := (hp.values h hh).1
  simp [Multipart.headerLine, hname, hvalue]

theorem IsSendable.headerBytes (hp : p.IsSendable boundary) {line : List UInt8}
    (hline : line ∈ p.headers.map headerBytes) : line ≠ [] ∧ 13 ∉ line := by
  obtain ⟨h, hh, rfl⟩ := List.mem_map.1 hline
  constructor
  · intro hempty
    have hcolon : UInt8.ofNat (':' : Char).toNat ∈ Multipart.headerBytes h :=
      List.mem_flatMap.2 ⟨':', by simp [Multipart.headerLine], by decide⟩
    rw [hempty] at hcolon
    cases hcolon
  · exact fun hmem => hp.headerLine hh (Utf8.mem_of_mem_flatMap (c := '\r') (by decide) hmem)

/-- A block of headers is read as the headers that were sent. -/
theorem partOf_block (hp : p.IsSendable boundary) : partOf p.block = .ofHeaders p.headerTable := by
  have htable := headerTable_of_lines (fun h hh => (hp.names h hh).1) fun _ hh => hp.headerLine hh
  rw [partOf, block, htable]
  rfl

end Outgoing

/-- A reader without limits that has read a boundary, with the bytes behind it. -/
def behind (boundary : String) (buffer : List UInt8) : Reader :=
  { boundary := Utf8.encode boundary, phase := .boundary, buffer }

/-- **A part is read back as it was sent**, and the reader stands behind the next boundary. Its
steps read the line end behind the first boundary, the header block and the payload. -/
theorem outcome_part (hline : IsLine boundary) {p : Outgoing} (hp : p.IsSendable boundary)
    (s : List UInt8) :
    (behind boundary (crlf ++ p.bytes ++ delimiterOf boundary ++ s)).outcome =
      (behind boundary s).outcome.map fun (parts, final) => (p.received :: parts, final) := by
  let body := p.payload ++ (crlf ++ delimiterOf boundary ++ s)
  -- a line end, the header lines and a blank line stand in front of the payload
  have hbytes : crlf ++ p.bytes ++ delimiterOf boundary ++ s =
      13 :: 10 :: ((p.headers.map headerBytes).flatMap (· ++ crlf) ++ (crlf ++ body)) := by
    simp [p.bytes_eq, body, crlf]
  have hblock := headerBlock?_of_lines (fun _ h => hp.headerBytes h) body
  have hcut : cutAt? (crlf ++ delimiterOf boundary) body = some (p.payload, s) :=
    (clear_payload hline hp s).cutAt?_marker
  let r₁ : Reader := { behind boundary (crlf ++ p.bytes ++ delimiterOf boundary ++ s) with
    buffer := (p.headers.map headerBytes).flatMap (· ++ crlf) ++ (crlf ++ body), phase := .headers }
  let r₂ : Reader := { r₁ with buffer := body, phase := .body (partOf p.block), data := [] }
  have hbegin : (behind boundary (crlf ++ p.bytes ++ delimiterOf boundary ++ s)).Advances r₁ none :=
    .begin _ rfl hbytes
  have hheaders : r₁.Advances r₂ none :=
    .headers p.block body rfl hblock (by simp [r₁, behind, Limits.allows])
  have hbody : r₂.Advances (behind boundary s)
      (some { partOf p.block with data := p.payload }) :=
    .body (partOf p.block) p.payload s rfl hcut (by simp [r₂, r₁, behind, isTooLarge])
  -- the part was opened without data and is given out with the payload
  have hreceived : { partOf p.block with data := p.payload } = p.received := by
    rw [Outgoing.partOf_block hp]
    rfl
  rw [outcome_of_advances hbegin, outcome_of_advances hheaders, outcome_of_advances hbody,
    hreceived]
  cases (behind boundary s).outcome <;> rfl

/-! ## Reading a body -/

/-- The bytes behind the first delimiter of a body. -/
def following (boundary : String) : List Outgoing → List UInt8
  | [] => 45 :: 45 :: crlf
  | p :: rest => crlf ++ p.bytes ++ delimiterOf boundary ++ following boundary rest

/-- A body is a delimiter with all that follows it. -/
theorem assemble_eq (boundary : String) (parts : List Outgoing) :
    assemble boundary parts = delimiterOf boundary ++ following boundary parts := by
  have hclose : Utf8.encode "--\r\n" = 45 :: 45 :: crlf := by
    rw [Utf8.encode_eq_flatMap]
    rfl
  rw [assemble]
  induction parts with
  | nil =>
    rw [List.flatMap_nil, Utf8.encode_append, encode_delimiter, hclose]
    rfl
  | cons p rest ih =>
    rw [List.flatMap_cons, List.append_assoc, ih, Utf8.encode_append, encode_delimiter, encode_crlf]
    simp only [following, List.append_assoc]

/-- **The parts of a body are read one by one, up to the closing boundary.** Induction on the parts;
what stands behind the closing boundary is dropped. -/
theorem outcome_following (hline : IsLine boundary) {parts : List Outgoing}
    (hparts : ∀ p ∈ parts, p.IsSendable boundary) (epilogue : List UInt8) :
    ∃ final, (behind boundary (following boundary parts ++ epilogue)).outcome =
        .ok (parts.map Outgoing.received, final) ∧ final.isDone = true := by
  induction parts with
  | nil =>
    -- the two dashes behind the last delimiter end the body
    let final : Reader := { behind boundary [] with phase := .done }
    have hfinish : (behind boundary (following boundary [] ++ epilogue)).Advances final none :=
      .finish (crlf ++ epilogue) rfl rfl
    have hdone : final.outcome = .ok ([], final) := outcome_of_wait rfl
    refine ⟨final, ?_, rfl⟩
    rw [outcome_of_advances hfinish, hdone]
    rfl
  | cons p rest ih =>
    obtain ⟨final, hrest, hdone⟩ := ih fun q hq => hparts q (List.mem_cons_of_mem p hq)
    refine ⟨final, ?_, hdone⟩
    rw [following, List.append_assoc, outcome_part hline (hparts p List.mem_cons_self), hrest]
    rfl

/-- **The parts that were assembled are read back**, each once and in order, up to the end. -/
theorem outcome_assemble (hline : IsLine boundary) {parts : List Outgoing}
    (hparts : ∀ p ∈ parts, p.IsSendable boundary) {preamble : List UInt8}
    (hend : preamble = [] ∨ crlf <:+ preamble)
    (hinside : ¬ Utf8.encode ("--" ++ boundary) <:+: preamble) (epilogue : List UInt8) :
    let r : Reader := { boundary := Utf8.encode boundary }
    ∃ final, (r.push (preamble ++ assemble boundary parts ++ epilogue)).outcome =
        .ok (parts.map Outgoing.received, final) ∧ final.isDone = true := by
  intro r
  have hbytes : preamble ++ assemble boundary parts ++ epilogue
      = preamble ++ (delimiterOf boundary ++ (following boundary parts ++ epilogue)) := by
    rw [assemble_eq, List.append_assoc, List.append_assoc]
  have hcut : cutAt? (delimiterOf boundary) (preamble ++ assemble boundary parts ++ epilogue) =
      some (preamble, following boundary parts ++ epilogue) := by
    rw [hbytes]
    exact (clear_preamble hline hend hinside _).cutAt?_marker
  have hskip : (r.push (preamble ++ assemble boundary parts ++ epilogue)).Advances
      (behind boundary (following boundary parts ++ epilogue)) none :=
    .preamble _ _ rfl hcut
  obtain ⟨final, hparts, hdone⟩ := outcome_following hline hparts epilogue
  refine ⟨final, ?_, hdone⟩
  rw [outcome_of_advances hskip, hparts]
  rfl

/-- Nothing has to stand in front of a body or behind it. -/
theorem outcome_assemble_alone (hline : IsLine boundary) {parts : List Outgoing}
    (hparts : ∀ p ∈ parts, p.IsSendable boundary) :
    let r : Reader := { boundary := Utf8.encode boundary }
    ∃ final, (r.push (assemble boundary parts)).outcome =
        .ok (parts.map Outgoing.received, final) ∧ final.isDone = true := by
  have hinside : ¬ Utf8.encode ("--" ++ boundary) <:+: [] := by
    rw [encode_delimiter, List.infix_nil]
    exact List.cons_ne_nil _ _
  have hbody := outcome_assemble hline hparts (.inl rfl) hinside []
  rwa [List.nil_append, List.append_nil] at hbody

namespace Reader

/-- An ASCII boundary stands in a body as it is written. -/
theorem forBoundary_of_ascii (hascii : IsAscii boundary) (limits : Limits) :
    forBoundary boundary limits = .ok { boundary := Utf8.encode boundary, limits } := by
  rw [forBoundary, Utf8.encodeLatin1From_of_ascii hascii, Utf8.encode_eq_flatMap]

/-- **An assembled body is read back.** For every ASCII boundary without line breaks, all parts that
can be sent with it, every preamble that ends its last line and does not contain the delimiter,
every epilogue and every way to cut the body into chunks, a reader without limits gives out every
part once and in order, as `Outgoing.received` describes it, and is done. -/
theorem feedAll_assemble {boundary : String} (hascii : IsAscii boundary)
    (hline : IsLine boundary) {parts : List Outgoing} (hparts : ∀ p ∈ parts, p.IsSendable boundary)
    {preamble : List UInt8} (hend : preamble = [] ∨ crlf <:+ preamble)
    (hinside : ¬ Utf8.encode ("--" ++ boundary) <:+: preamble) {epilogue : List UInt8}
    {chunks : List (List UInt8)}
    (hchunks : chunks.flatten = preamble ++ assemble boundary parts ++ epilogue) :
    ∃ r final, forBoundary boundary {} = .ok r ∧
      r.feedAll chunks = .ok (parts.map Outgoing.received, final) ∧
      final.isDone = true ∧ final.close = .ok () := by
  have hr := forBoundary_of_ascii hascii {}
  obtain ⟨final, hout, hdone⟩ := outcome_assemble hline hparts hend hinside epilogue
  refine ⟨_, final, hr, ?_, hdone, ?_⟩
  · rw [feedAll_eq_outcome (step_of_forBoundary hr), hchunks]
    exact hout
  · rw [close, if_pos hdone]

end Reader

namespace Sample

/-- A part without headers. Its payload holds a blank line and beginnings of a marker. -/
def bare : Outgoing := ⟨[], [13, 10, 13, 10, 45, 45, 13, 10, 45, 45, 45, 13]⟩

/-- A file part without data, with two content types. -/
def file : Outgoing where
  headers := [("CONTENT-Disposition ", "form-data; Name=\"a:b\"; filename=\"\""),
    ("content-type", "Text/Plain; q=1"), ("Content-Type", " image/png ")]
  payload := []

/-- A part with an empty name. -/
def unnamed : Outgoing := ⟨[("Content-Disposition", "form-data; name=\"\"")], [120]⟩

end Sample

namespace Reader

open Multipart.Sample

/-- Two parts that are read byte by byte, behind a preamble that ends like a delimiter begins and in
front of an epilogue that looks like a boundary. -/
theorem feedAll_assemble_bytewise :
    let preamble : List UInt8 := [45, 45, 45, 13, 10]
    let epilogue : List UInt8 := [45, 45, 45, 98, 13, 10]
    let body := preamble ++ assemble "-b" [bare, file] ++ epilogue
    IsAscii "-b" ∧ IsLine "-b" ∧ (∀ p ∈ [bare, file], p.IsSendable "-b") ∧
      crlf <:+ preamble ∧ ¬ Utf8.encode ("--" ++ "-b") <:+: preamble ∧
      (file.received.name = some "a:b" ∧ file.received.filename = some "" ∧
        file.received.contentType = some "image/png") ∧
      ∃ r final, forBoundary "-b" {} = .ok r ∧
        r.feedAll (body.map fun b => [b]) = .ok ([bare.received, file.received], final) ∧
        final.isDone = true ∧ final.close = .ok () := by
  intro preamble epilogue body
  have hascii : IsAscii "-b" := by decide +kernel
  have hline : IsLine "-b" := by decide +kernel
  have hparts : ∀ p ∈ [bare, file], p.IsSendable "-b" := by decide +kernel
  have hend : crlf <:+ [45, 45, 45, 13, 10] := by decide
  have hinside : ¬ Utf8.encode ("--" ++ "-b") <:+: [45, 45, 45, 13, 10] := by decide +kernel
  have hfile : file.received.name = some "a:b" ∧ file.received.filename = some "" ∧
      file.received.contentType = some "image/png" := by decide +kernel
  have hchunks : (body.map fun b => [b]).flatten = body := List.flatMap_singleton' body
  exact ⟨hascii, hline, hparts, hend, hinside, hfile,
    feedAll_assemble hascii hline hparts (.inr hend) hinside hchunks⟩

/-- An empty name is read, but the part that is given out has no name. -/
theorem empty_name_dropped :
    unnamed.IsSendable "b" ∧
      (Header.read "form-data; name=\"\"").params.get? "name" = some "" ∧
      ∃ r part final, forBoundary "b" {} = .ok r ∧
        r.feedAll [assemble "b" [unnamed]] = .ok ([part], final) ∧
        part.headers.get? "content-disposition" = some "form-data; name=\"\"" ∧
        part.name = none := by
  have hparts : ∀ p ∈ [unnamed], p.IsSendable "b" := by decide +kernel
  have hread : (Header.read "form-data; name=\"\"").params.get? "name" = some "" := by
    decide +kernel
  have hpart : unnamed.received.headers.get? "content-disposition"
      = some "form-data; name=\"\"" ∧ unnamed.received.name = none := by decide +kernel
  have hascii : IsAscii "b" := by decide +kernel
  have hline : IsLine "b" := by decide +kernel
  have hinside : ¬ Utf8.encode ("--" ++ "b") <:+: [] := by decide +kernel
  have hr := forBoundary_of_ascii hascii {}
  obtain ⟨final, hout, -⟩ := outcome_assemble hline hparts (.inl rfl) hinside []
  have hbody : [assemble "b" [unnamed]].flatten = [] ++ assemble "b" [unnamed] ++ [] := by
    rw [List.flatten_singleton, List.nil_append, List.append_nil]
  refine ⟨hparts unnamed (List.mem_singleton_self _), hread, _, _, final, hr, ?_, hpart⟩
  rw [feedAll_eq_outcome (step_of_forBoundary hr), hbody]
  exact hout

end Reader

end ApiShape.Multipart
