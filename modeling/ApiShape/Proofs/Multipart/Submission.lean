import ApiShape.Multipart.Form
import ApiShape.Proofs.Action
import ApiShape.Proofs.Multipart.Assembly

/-!
# Submitted entries are read back

A form is submitted entry by entry (`Entry`): a text, or a file with its name and perhaps a content
type. Names stand in quotes in the disposition of a part, and the boundary does in the content type
of the form.

* **`Header.read_quotedHeader_eq`** — the items of a header value are those of its parameters, one
  after the other; so `Header.read_quotedHeader` says that parameters in quotes are read back, as
  long as no value holds a quote or a semicolon.
* **`boundaryOf_formType`** — the boundary is read from the content type of the form, whatever
  characters that boundaries may have it is made of.
* `Entry.IsFit.isSendable` — the part of an entry can be sent.
* **`Entry.IsFit.received`** — the part is received under the name of the entry as what was
  submitted.
-/

namespace ApiShape

open Text

/-! ## Quoted parameters

A header value is cut at every semicolon before quotes are looked at, so what stands in quotes must
not hold one. Only the quotes at the ends of a value are dropped, and blanks inside them are
kept. -/

/-- The text has neither blanks nor delimiters. -/
structure IsToken (s : String) : Prop where
  ne_nil : s.toList ≠ []
  blank : ∀ c ∈ s.toList, isBlank c = false
  delimiters : ';' ∉ s.toList ∧ '=' ∉ s.toList

instance : DecidablePred IsToken := fun s =>
  have : Decidable (∀ c ∈ s.toList, isBlank c = false) :=
    List.decidableBAll (fun c : Char => isBlank c = false) s.toList
  decidable_of_iff (s.toList ≠ [] ∧ (∀ c ∈ s.toList, isBlank c = false) ∧
      ';' ∉ s.toList ∧ '=' ∉ s.toList)
    ⟨fun ⟨ne_nil, blank, delimiters⟩ => ⟨ne_nil, blank, delimiters⟩,
      fun h => ⟨h.ne_nil, h.blank, h.delimiters⟩⟩

theorem IsToken.head {s : String} (h : IsToken s) (rest : List Char) :
    ∀ c ∈ (s.toList ++ rest).head?, isBlank c = false := by
  intro c hc
  cases hs : s.toList with
  | nil => exact absurd hs h.ne_nil
  | cons d more =>
    rw [hs] at hc
    obtain rfl : d = c := Option.some.inj hc
    exact h.blank d (hs ▸ List.mem_cons_self)

/-- The text can stand in quotes. -/
def IsQuotable (s : String) : Prop := ';' ∉ s.toList ∧ '"' ∉ s.toList

/-- A parameter with its value in quotes. -/
def quotedParam (p : String × String) : List Char :=
  p.1.toList ++ '=' :: '"' :: (p.2.toList ++ ['"'])

/-- A header value with parameters in quotes. -/
def quotedHeader (main : String) (params : List (String × String)) : String :=
  String.ofList (main.toList ++ params.flatMap fun p => ';' :: ' ' :: quotedParam p)

example : quotedHeader "form-data" [("name", "a"), ("filename", "b c")] =
    "form-data; name=\"a\"; filename=\"b c\"" := by decide +kernel

namespace Header

open Multipart (IsLine)

/-- There is nothing to trim from a token. -/
theorem trim_of_token {s : String} (h : IsToken s) : trim s.toList = s.toList :=
  trimWhile_eq_self (fun c hc => h.blank c (List.mem_of_mem_head? hc))
    fun c hc => h.blank c (List.mem_of_mem_getLast? hc)

/-- A quote at the end of a text keeps what stands in front of it from being trimmed. -/
theorem trim_of_quote {s : List Char} (hhead : ∀ c ∈ s.head?, isBlank c = false)
    (hlast : s.getLast? = some '"') : trim s = s := by
  refine trimWhile_eq_self hhead fun c hc => ?_
  rw [hlast] at hc
  obtain rfl : '"' = c := Option.some.inj hc
  decide

/-- The blank in front of a parameter is trimmed. -/
theorem trim_quotedParam {p : String × String} (hname : IsToken p.1) :
    trim (' ' :: quotedParam p) = quotedParam p := by
  rw [trim_cons (by decide)]
  refine trim_of_quote (hname.head _) ?_
  rw [quotedParam, ← List.cons_append, ← List.cons_append, ← List.append_assoc,
    List.getLast?_concat]

/-- A quoted parameter is read back, its name in lower case. -/
theorem param?_quotedParam {p : String × String} (hname : IsToken p.1) (hvalue : IsQuotable p.2) :
    param? (quotedParam p) = some (lowerCase p.1, p.2) := by
  have htrim : trim ('"' :: (p.2.toList ++ ['"'])) = '"' :: (p.2.toList ++ ['"']) := by
    refine trim_of_quote (fun c hc => ?_) (by rw [← List.cons_append, List.getLast?_concat])
    obtain rfl : '"' = c := Option.some.inj hc
    decide
  have hunquoted : trimWhile (· = '"') ('"' :: (p.2.toList ++ ['"'])) = p.2.toList :=
    trimWhile_surround (decide_eq_true rfl) fun d hd =>
      decide_eq_false fun heq => hvalue.2 (heq ▸ hd)
  rw [param?, quotedParam, cut_append hname.delimiters.2]
  simp only [htrim, hunquoted, trim_of_token hname, String.ofList_toList, lowerCase]

/-- A semicolon divides what stands before it from what stands behind it. -/
theorem items_append (before after : List Char) :
    items (before ++ ';' :: after) = items before ++ items after := by
  rw [items, pieces_append, List.map_append, List.filter_append]
  rfl

/-- A text without semicolons that is not blank is one item. -/
theorem items_of_not_mem {s : List Char} (h : ';' ∉ s) (hfull : trim s ≠ []) :
    items s = [trim s] := by
  rw [items, pieces_of_not_mem h, List.map_singleton]
  exact List.filter_cons_of_pos (by simpa using hfull)

/-- A token is a single item. -/
theorem items_token {s : String} (h : IsToken s) : items s.toList = [s.toList] := by
  have htrim := trim_of_token h
  rw [items_of_not_mem h.delimiters.1 (by rw [htrim]; exact h.ne_nil), htrim]

/-- A parameter whose value holds no semicolon is one item. -/
theorem items_quotedParam {p : String × String} (hname : IsToken p.1) (hvalue : ';' ∉ p.2.toList) :
    items (' ' :: quotedParam p) = [quotedParam p] := by
  have htrim := trim_quotedParam hname
  have hparam : ';' ∉ ' ' :: quotedParam p := by
    simp [quotedParam, hname.delimiters.1, hvalue]
  rw [items_of_not_mem hparam (by rw [htrim]; simp [quotedParam]), htrim]

/-- What is read from quoted parameters: each of their items that holds an equals sign. -/
def readParams (params : List (String × String)) : List (String × String) :=
  (params.flatMap fun p => items (' ' :: quotedParam p)).filterMap param?

theorem readParams_append (before after : List (String × String)) :
    readParams (before ++ after) = readParams before ++ readParams after := by
  rw [readParams, List.flatMap_append, List.filterMap_append]
  rfl

/-- Quoted parameters are read back in order. -/
theorem readParams_of_quotable {params : List (String × String)}
    (hnames : ∀ p ∈ params, IsToken p.1) (hvalues : ∀ p ∈ params, IsQuotable p.2) :
    readParams params = params.map fun p => (lowerCase p.1, p.2) := by
  have hitems : params.flatMap (fun p => items (' ' :: quotedParam p)) =
      params.map quotedParam := by
    rw [List.map_eq_flatMap]
    exact List.flatMap_congr fun p hp => items_quotedParam (hnames p hp) (hvalues p hp).1
  rw [readParams, hitems, List.filterMap_map]
  exact List.filterMap_eq_map_iff_forall_eq_some.2 fun p hp =>
    param?_quotedParam (hnames p hp) (hvalues p hp)

/-- The items of a header value are those of its main value and of its parameters. -/
theorem items_quotedHeader (main : String) (params : List (String × String)) :
    items (quotedHeader main params).toList =
      items main.toList ++ params.flatMap fun p => items (' ' :: quotedParam p) := by
  rw [quotedHeader, String.toList_ofList]
  generalize main.toList = before
  induction params generalizing before with
  | nil => rw [List.flatMap_nil, List.flatMap_nil, List.append_nil, List.append_nil]
  | cons p rest ih =>
    rw [List.flatMap_cons, List.cons_append, items_append, ih, List.flatMap_cons]

/-- **A header value is read item by item**, whatever the values of its parameters are. -/
theorem read_quotedHeader_eq {main : String} (hmain : IsToken main)
    (params : List (String × String)) :
    read (quotedHeader main params) = ⟨lowerCase main, Table.ofList (readParams params)⟩ := by
  rw [read, items_quotedHeader, items_token hmain]
  rfl

/-- **Quoted parameters are read back.** -/
theorem read_quotedHeader {main : String} {params : List (String × String)} (hmain : IsToken main)
    (hnames : ∀ p ∈ params, IsToken p.1) (hvalues : ∀ p ∈ params, IsQuotable p.2) :
    read (quotedHeader main params) =
      ⟨lowerCase main, Table.ofList (params.map fun p => (lowerCase p.1, p.2))⟩ := by
  rw [read_quotedHeader_eq hmain, readParams_of_quotable hnames hvalues]

/-- A header is written without blanks around it. -/
theorem trimmed_quotedHeader {main : String} {params : List (String × String)}
    (hmain : IsToken main) (hparams : params ≠ []) :
    trimmed (quotedHeader main params) = quotedHeader main params := by
  rw [trimmed, quotedHeader, String.toList_ofList, trim_of_quote (hmain.head _)]
  -- the last sign is the quote behind the last value
  rw [← List.dropLast_append_getLast hparams, List.flatMap_append, List.flatMap_singleton,
    quotedParam]
  simp only [List.getLast?_append, List.getLast?_cons]
  rfl

/-- A header value whose parameters stay on their line stays on its line. -/
theorem isLine_quotedHeader {main : String} {params : List (String × String)}
    (hmain : IsLine main) (hparams : ∀ p ∈ params, IsLine p.1 ∧ IsLine p.2) :
    IsLine (quotedHeader main params) := by
  have hnot : ∀ c, c ∉ main.toList → (∀ p ∈ params, c ∉ p.1.toList ∧ c ∉ p.2.toList) →
      c ∉ [';', ' ', '=', '"'] → c ∉ (quotedHeader main params).toList := by
    intro c hc hall hsigns
    simp only [List.mem_cons, List.not_mem_nil, or_false, not_or] at hsigns
    simp only [quotedHeader, quotedParam, String.toList_ofList, List.mem_append, List.mem_flatMap,
      List.mem_cons, List.not_mem_nil, or_false, not_or, not_exists, not_and]
    refine ⟨hc, fun p hp => ⟨hsigns.1, hsigns.2.1, (hall p hp).1, hsigns.2.2.1, hsigns.2.2.2,
      (hall p hp).2, hsigns.2.2.2⟩⟩
  exact ⟨hnot '\r' hmain.1 (fun p hp => ⟨(hparams p hp).1.1, (hparams p hp).2.1⟩) (by decide),
    hnot '\n' hmain.2 (fun p hp => ⟨(hparams p hp).1.2, (hparams p hp).2.2⟩) (by decide)⟩

end Header

namespace Multipart

/-! ## The boundary -/

/-- The characters that a boundary may hold. -/
def isBoundaryChar (c : Char) : Bool := c.isAlphanum || "'()+_,-./:=? ".toList.contains c

variable {boundary : String}

/-- The characters of a boundary are ASCII. -/
theorem toNat_lt_of_isBoundaryChar {c : Char} (h : isBoundaryChar c = true) : c.toNat < 128 := by
  rcases Bool.or_eq_true_iff.1 h with halphanum | hother
  -- the three ranges, whatever form the library gives to their bounds
  · replace halphanum : (decide ('A'.val ≤ c.val ∧ c.val ≤ 'Z'.val) ||
        ('a'.val ≤ c.val && c.val ≤ 'z'.val) || ('0'.val ≤ c.val && c.val ≤ '9'.val)) = true :=
      halphanum
    simp only [Bool.or_eq_true, Bool.and_eq_true, decide_eq_true_eq, UInt32.le_iff_toNat_le]
      at halphanum
    rcases halphanum with (⟨-, h⟩ | ⟨-, h⟩) | ⟨-, h⟩
    · exact Nat.lt_of_le_of_lt h (by decide)
    · exact Nat.lt_of_le_of_lt h (by decide)
    · exact Nat.lt_of_le_of_lt h (by decide)
  · have hothers : IsAscii "'()+_,-./:=? " := by decide +kernel
    exact hothers c (List.contains_iff_mem.1 hother)

/-- A boundary has no character that ends a line, a parameter or a quotation. -/
structure IsBoundary (boundary : String) : Prop where
  ne_empty : boundary ≠ ""
  chars : ∀ c ∈ boundary.toList, isBoundaryChar c = true

instance : DecidablePred IsBoundary := fun boundary =>
  have : Decidable (∀ c ∈ boundary.toList, isBoundaryChar c = true) :=
    List.decidableBAll (fun c : Char => isBoundaryChar c = true) boundary.toList
  decidable_of_iff (boundary ≠ "" ∧ ∀ c ∈ boundary.toList, isBoundaryChar c = true)
    ⟨fun ⟨ne_empty, chars⟩ => ⟨ne_empty, chars⟩, fun h => ⟨h.ne_empty, h.chars⟩⟩

namespace IsBoundary

/-- A boundary has no other characters. -/
theorem not_mem (h : IsBoundary boundary) {c : Char} (hc : isBoundaryChar c = false) :
    c ∉ boundary.toList := by
  intro hmem
  rw [h.chars c hmem] at hc
  cases hc

theorem isAscii (h : IsBoundary boundary) : IsAscii boundary := fun c hc =>
  toNat_lt_of_isBoundaryChar (h.chars c hc)

theorem isLine (h : IsBoundary boundary) : IsLine boundary :=
  ⟨h.not_mem (by decide), h.not_mem (by decide)⟩

theorem isQuotable (h : IsBoundary boundary) : IsQuotable boundary :=
  ⟨h.not_mem (by decide), h.not_mem (by decide)⟩

end IsBoundary

theorem nonEmpty?_some {s : String} (h : s ≠ "") : nonEmpty? (some s) = some s := by
  have hfull : (!s.isEmpty) = true := by simpa using h
  rw [nonEmpty?, Option.filter_some, if_pos hfull]

/-- The content type of a form in parts. -/
def formType (boundary : String) : String :=
  quotedHeader "multipart/form-data" [("boundary", boundary)]

/-- **The boundary is read from the content type.** -/
theorem boundaryOf_formType (h : IsBoundary boundary) :
    boundaryOf (some (formType boundary)) = .ok boundary := by
  have htoken : IsToken "boundary" := by decide +kernel
  have hnames : ∀ p ∈ [("boundary", boundary)], IsToken p.1 := List.forall_mem_singleton.2 htoken
  have hvalues : ∀ p ∈ [("boundary", boundary)], IsQuotable p.2 :=
    List.forall_mem_singleton.2 h.isQuotable
  have hmedia : lowerCase "multipart/form-data" = "multipart/form-data" := by decide +kernel
  have hparam : lowerCase "boundary" = "boundary" := by decide +kernel
  have hmultipart : ¬ (!"multipart/".toList.isPrefixOf "multipart/form-data".toList) = true := by
    decide +kernel
  have hvalue : (Table.ofList [("boundary", boundary)]).get? "boundary" = some boundary := rfl
  rw [boundaryOf, Option.getD_some, formType,
    Header.read_quotedHeader (by decide +kernel) hnames hvalues, hmedia, List.map_singleton, hparam,
    hvalue, nonEmpty?_some h.ne_empty, if_neg hmultipart]

/-! ## Entries of a form -/

/-- A file that is submitted: its name, perhaps its content type, and its bytes. -/
structure Upload where
  filename : String
  contentType : Option String := none
  content : List UInt8

/-- What is submitted: a text or a file. -/
inductive Submitted where
  | text (s : String)
  | file (u : Upload)

namespace Submitted

/-- Text is written in UTF-8. -/
def payload : Submitted → List UInt8
  | text s => Utf8.encode s
  | file u => u.content

/-- The name of a file. -/
def filename? : Submitted → Option String
  | text _ => none
  | file u => some u.filename

/-- The content type of a file. -/
def contentType? : Submitted → Option String
  | text _ => none
  | file u => u.contentType

end Submitted

/-- The media type that a content type names, unless it is blank. -/
def mediaType (contentType : Option String) : Option String :=
  (nonEmpty? (contentType.map trimmed)).map fun type => (Header.read type).value

/-- What is received: a text, or the file as a stream. -/
def Submitted.value : Submitted → Value
  | text s => .text s
  | file u => .payload (mediaType u.contentType) (some u.filename) { content := u.content }

/-- What is submitted under a name. -/
structure Entry where
  name : String
  sent : Submitted

namespace Entry

/-- The parameters of the disposition. -/
def params (e : Entry) : List (String × String) :=
  ("name", e.name) :: e.sent.filename?.toList.map ("filename", ·)

/-- The part of an entry. -/
def outgoing (e : Entry) : Outgoing where
  headers := ("Content-Disposition", quotedHeader "form-data" e.params) ::
    e.sent.contentType?.toList.map ("Content-Type", ·)
  payload := e.sent.payload

/-- The entry can be submitted: its names are not empty and can stand in quotes on a line, a content
type stays on its line, and the payload cannot be taken to end early. -/
structure IsFit (boundary : String) (e : Entry) : Prop where
  params : ∀ p ∈ e.params, p.2 ≠ "" ∧ IsQuotable p.2 ∧ IsLine p.2
  contentType : ∀ type ∈ e.sent.contentType?.toList, IsLine type
  payload : ¬ Utf8.encode ("\r\n" ++ "--" ++ boundary) <:+: e.sent.payload

instance : DecidablePred IsQuotable := fun s =>
  inferInstanceAs (Decidable (';' ∉ s.toList ∧ '"' ∉ s.toList))

instance (boundary : String) : DecidablePred (IsFit boundary) := fun e =>
  decidable_of_iff ((∀ p ∈ e.params, p.2 ≠ "" ∧ IsQuotable p.2 ∧ IsLine p.2) ∧
      (∀ type ∈ e.sent.contentType?.toList, IsLine type) ∧
      ¬ Utf8.encode ("\r\n" ++ "--" ++ boundary) <:+: e.sent.payload)
    ⟨fun ⟨params, contentType, payload⟩ => ⟨params, contentType, payload⟩,
      fun h => ⟨h.params, h.contentType, h.payload⟩⟩

variable {e : Entry}

/-- The parameters of an entry have tokens for names. -/
theorem isToken_of_mem_params {p : String × String} (hp : p ∈ e.params) : IsToken p.1 := by
  have hname : IsToken "name" := by decide +kernel
  have hfilename : IsToken "filename" := by decide +kernel
  rcases List.mem_cons.1 hp with rfl | hp
  · exact hname
  · obtain ⟨filename, -, rfl⟩ := List.mem_map.1 hp
    exact hfilename

/-- **The part of an entry can be sent.** -/
theorem IsFit.isSendable (h : e.IsFit boundary) : e.outgoing.IsSendable boundary where
  names := by
    have hdisposition : ':' ∉ "Content-Disposition".toList ∧ IsLine "Content-Disposition" := by
      decide +kernel
    have htype : ':' ∉ "Content-Type".toList ∧ IsLine "Content-Type" := by decide +kernel
    intro header hheader
    rcases List.mem_cons.1 hheader with rfl | hheader
    · exact hdisposition
    · obtain ⟨type, -, rfl⟩ := List.mem_map.1 hheader
      exact htype
  values := by
    have hname : IsLine "name" := by decide +kernel
    have hfilename : IsLine "filename" := by decide +kernel
    intro header hheader
    rcases List.mem_cons.1 hheader with rfl | hheader
    · refine Header.isLine_quotedHeader (by decide +kernel) fun p hp => ⟨?_, (h.params p hp).2.2⟩
      rcases List.mem_cons.1 hp with rfl | hp
      · exact hname
      · obtain ⟨filename, -, rfl⟩ := List.mem_map.1 hp
        exact hfilename
    · obtain ⟨type, htype, rfl⟩ := List.mem_map.1 hheader
      exact h.contentType type htype
  payload := h.payload

/-! ## Received entries -/

/-- The headers of a part that is sent are those of its entry. -/
theorem headerTable_outgoing (e : Entry) :
    e.outgoing.headerTable.get? "content-disposition" = some (quotedHeader "form-data" e.params) ∧
      e.outgoing.headerTable.get? "content-type" = e.sent.contentType?.map trimmed := by
  have hdisposition : lowerCase (trimmed "Content-Disposition") = "content-disposition" := by
    decide +kernel
  have htype : lowerCase (trimmed "Content-Type") = "content-type" := by decide +kernel
  have htrimmed : trimmed (quotedHeader "form-data" e.params) = quotedHeader "form-data" e.params :=
    Header.trimmed_quotedHeader (by decide +kernel) (List.cons_ne_nil _ _)
  rw [Outgoing.headerTable, outgoing]
  cases e.sent.contentType? with
  | none =>
    simp only [Option.toList_none, List.map_nil, List.map_cons, hdisposition, htrimmed]
    exact ⟨rfl, rfl⟩
  | some type =>
    simp only [Option.toList_some, List.map_cons, List.map_nil, hdisposition, htype, htrimmed]
    exact ⟨rfl, rfl⟩

/-- The name and the filename of an entry are read back from the part that is sent. -/
theorem IsFit.disposition_outgoing (h : e.IsFit boundary) :
    e.outgoing.disposition.get? "name" = some e.name ∧
      e.outgoing.disposition.get? "filename" = e.sent.filename? := by
  have hname : lowerCase "name" = "name" := by decide +kernel
  have hfilename : lowerCase "filename" = "filename" := by decide +kernel
  rw [Outgoing.disposition, (headerTable_outgoing e).1, Option.getD_some,
    Header.read_quotedHeader (by decide +kernel) (fun p hp => isToken_of_mem_params hp) fun p hp =>
      (h.params p hp).2.1]
  rw [Entry.params]
  cases e.sent.filename? with
  | none =>
    simp only [Option.toList_none, List.map_nil, List.map_cons, hname]
    exact ⟨rfl, rfl⟩
  | some filename =>
    simp only [Option.toList_some, List.map_cons, List.map_nil, hname, hfilename]
    exact ⟨rfl, rfl⟩

end Entry

/-- A text is read back from its bytes. -/
theorem decodeNamed_encode (further : Charsets) (s : String) :
    decodeNamed further "utf-8" (Utf8.encode s) = .ok s := by
  have hset : Charset.ofName? "utf-8" = some .utf8 := by decide +kernel
  have hnul : "utf-8".toList.contains '\x00' = false := by decide +kernel
  rw [decodeNamed, if_neg (by rw [hnul]; exact Bool.false_ne_true)]
  split
  -- of no bytes the charset is not looked up
  · next hempty =>
    have hchars : s.toList = [] := by
      have hdecoded := Utf8.decode_encode s
      rw [List.isEmpty_iff.1 hempty, Utf8.decode, Utf8.decodeFrom] at hdecoded
      exact (Except.ok.inj hdecoded).symm
    rw [← String.ofList_toList (s := s), hchars]
  · rw [hset]
    simp only [Charset.decode, Utf8.decode_encode, Except.mapError, Except.map,
      String.ofList_toList]

/-- **An entry is received under its name as what was submitted.** -/
theorem Entry.IsFit.received {e : Entry} (h : e.IsFit boundary) :
    e.outgoing.received.name = some e.name ∧ e.outgoing.received.isEmptyUpload = false ∧
      ∀ further, e.outgoing.received.valueIn further = .ok e.sent.value := by
  have hname : e.outgoing.received.name = some e.name := by
    rw [Outgoing.received]
    simp only [h.disposition_outgoing.1]
    exact nonEmpty?_some (h.params _ List.mem_cons_self).1
  have hfilename : e.outgoing.received.filename = e.sent.filename? := h.disposition_outgoing.2
  have htype : e.outgoing.received.contentType = mediaType e.sent.contentType? := by
    rw [Outgoing.received, mediaType]
    simp only [(headerTable_outgoing e).2]
  have hcharset : e.outgoing.received.headers.get? "content-type" =
      e.sent.contentType?.map trimmed := (headerTable_outgoing e).2
  have hdata : e.outgoing.received.data = e.sent.payload := rfl
  refine ⟨hname, ?_, fun further => ?_⟩
  · rw [Part.isEmptyUpload, hfilename]
    cases hsent : e.sent with
    | text s => rfl
    | file u =>
      have hne : u.filename ≠ "" :=
        (h.params ("filename", u.filename) (by simp [Entry.params, hsent, Submitted.filename?])).1
      simpa [Submitted.filename?] using hne
  · cases hsent : e.sent with
    | text s =>
      rw [hsent] at hfilename htype hcharset hdata
      -- a text comes without a content type, which would name another charset
      have hutf8 : e.outgoing.received.charset = "utf-8" := by
        rw [Part.charset, hcharset]
        show ((Header.read "").params.get? "charset").getD "utf-8" = "utf-8"
        decide +kernel
      have hfile : e.outgoing.received.isFile = false := by
        rw [Part.isFile, hfilename]
        rfl
      have hbinary : e.outgoing.received.isBinary = false := by
        rw [Part.isBinary, hfilename, htype]
        rfl
      rw [Part.valueIn, hfile, hbinary, hutf8, hdata, Submitted.payload, decodeNamed_encode]
      rfl
    | file u =>
      rw [hsent] at hfilename htype hdata
      have hne : u.filename ≠ "" :=
        (h.params ("filename", u.filename) (by simp [Entry.params, hsent, Submitted.filename?])).1
      have hfile : e.outgoing.received.isFile = true := by
        rw [Part.isFile, hfilename, Submitted.filename?, nonEmpty?_some hne]
        rfl
      rw [Part.valueIn, hfile, if_pos rfl, htype, hfilename, hdata]
      rfl

end Multipart

end ApiShape
