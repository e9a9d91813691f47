import ApiShape.Api.Basic
import ApiShape.Decoder.Body
import ApiShape.Proofs.Multipart.Gathering

/-!
# How draining a body fails

A body is drained to the values of its form, or it is refused with a multipart error, or one of two
texts of the client makes the draining fail otherwise: a boundary that is no Latin-1 text, or the
name of a character set that cannot be looked up or that fails on its own.

* `Part.Fails` — the value of a part cannot be had, for what reason `Part.Fails.cases` says.
* `wp_addParts` — the parts are added up to the first one that fails.
* `wp_drain` — a reader is drained, or refuses the body, or a part that it has given out fails.
* **`readBody_escapes_iff`** — the ways in which draining fails without a multipart error.
* **`boundary_escapes`** — a boundary that does so.
-/

namespace ApiShape

open Text Multipart

/-- The error says that a multipart body is refused. -/
def Error.IsMultipart (e : Error) : Prop := ∃ fault field, e = .multipart fault field

theorem Error.isMultipart (fault : MultipartFault) (field : Option String) :
    (Error.multipart fault field).IsMultipart := ⟨fault, field, rfl⟩

theorem Error.not_isMultipart_fault (f : Fault) : ¬ (Error.fault f).IsMultipart := by
  rintro ⟨fault, field, h⟩
  cases h

namespace Multipart

open ApiShape.Action

variable {further : Charsets} {p : Part} {parts more : List Part} {e e' : Error} {s : State}

/-! ## Parts that fail

Only named parts are asked for their value, and of those not the file inputs without a file. -/

structure Part.Fails (further : Charsets) (p : Part) (e : Error) : Prop where
  named : p.name ≠ none
  sent : p.isEmptyUpload = false
  value : p.valueIn further = .error e

/-- A part fails in one way. -/
theorem Part.Fails.unique (h : p.Fails further e) (h' : p.Fails further e') : e = e' :=
  Except.error.inj (h.value.symm.trans h'.value)

/-- Bytes that are not ASCII are unreadable, which the reader of parts reports. -/
theorem isUnreadable_of_decodeAscii {position : Nat} {bytes : List UInt8} {fault : CharsetFault}
    (h : decodeAsciiFrom position bytes = .error fault) : fault.isUnreadable = true := by
  induction bytes generalizing position with
  | nil => cases h
  | cons b rest ih =>
    rw [decodeAsciiFrom] at h
    split at h
    · exact ih (map_eq_error_iff.1 h)
    · cases h
      rfl

/-- The sets that are always known fail for the bytes only. -/
theorem isUnreadable_of_decode {set : Charset} {bytes : List UInt8} {fault : CharsetFault}
    (h : set.decode bytes = .error fault) : fault.isUnreadable = true := by
  cases set with
  | utf8 =>
    rw [Charset.decode] at h
    cases hdecoded : Utf8.decode bytes with
    | ok chars =>
      rw [hdecoded] at h
      cases h
    | error malformed =>
      rw [hdecoded] at h
      cases h
      rfl
  | latin1 => cases h
  | ascii => exact isUnreadable_of_decodeAscii h

/-- What makes reading a text fail, but not for its bytes: a NUL in the name of the character set,
or a further set. -/
def Breaks (further : Charsets) (name : String) (bytes : List UInt8)
    (fault : CharsetFault) : Prop :=
  fault = .nulInName ∧ '\x00' ∈ name.toList ∨
    fault.isUnreadable = false ∧ ∃ read, further name = some read ∧ read bytes = .error fault

/-- What is not reported as unreadable breaks the reading of a text. -/
theorem breaks_of_decodeNamed {name : String} {bytes : List UInt8} {fault : CharsetFault}
    (h : decodeNamed further name bytes = .error fault) (hfault : fault.isUnreadable = false) :
    Breaks further name bytes fault := by
  unfold decodeNamed at h
  split at h
  · next hnul =>
    cases h
    exact .inl ⟨rfl, List.contains_iff_mem.1 hnul⟩
  · split at h
    · cases h
    · split at h
      · have hread := isUnreadable_of_decode (map_eq_error_iff.1 h)
        exact (Bool.false_ne_true (hfault.symm.trans hread)).elim
      · split at h
        · next read hread => exact .inr ⟨hfault, read, hread, map_eq_error_iff.1 h⟩
        · cases h
          cases hfault

/-- The bytes of a part that fails cannot be read as text, or something else fails about its
character set. -/
theorem Part.Fails.cases (h : p.Fails further e) :
    e.IsMultipart ∨ ∃ fault, e = .fault (.charset fault) ∧
      Breaks further p.charset p.data fault := by
  have hvalue := h.value
  unfold Part.valueIn at hvalue
  split at hvalue
  · cases hvalue
  · split at hvalue
    · cases hvalue
    · split at hvalue
      · cases hvalue
      · next fault hdecode =>
        split at hvalue
        · cases hvalue
          exact .inl (Error.isMultipart _ _)
        · next hfault =>
          cases hvalue
          exact .inr ⟨fault, rfl, breaks_of_decodeNamed hdecode (Bool.eq_false_iff.2 hfault)⟩

/-- The first part that fails. -/
inductive FirstFails (further : Charsets) : List Part → Part → Error → Prop
  | here {p : Part} {rest : List Part} {e : Error} (h : p.Fails further e) :
      FirstFails further (p :: rest) p e
  | later {p q : Part} {rest : List Part} {e : Error} (h : ∀ e, ¬ q.Fails further e)
      (hrest : FirstFails further rest p e) : FirstFails further (q :: rest) p e

/-- One part is the first to fail. -/
theorem FirstFails.unique {p' : Part} (h : FirstFails further parts p e)
    (h' : FirstFails further parts p' e') : e = e' := by
  induction h with
  | here h =>
    cases h' with
    | here h' => exact h.unique h'
    | later hfine _ => exact (hfine _ h).elim
  | later hfine _ ih =>
    cases h' with
    | here h' => exact (hfine _ h').elim
    | later _ hrest => exact ih hrest

/-- Behind parts that do not fail, the first part to fail is still the first. -/
theorem FirstFails.append (h : ∀ p ∈ parts, ∀ e, ¬ p.Fails further e)
    (hmore : FirstFails further more p e) : FirstFails further (parts ++ more) p e := by
  induction parts with
  | nil => exact hmore
  | cons q rest ih =>
    exact .later (h q List.mem_cons_self) (ih fun r hr => h r (List.mem_cons_of_mem q hr))

theorem FirstFails.fails (h : FirstFails further parts p e) : p ∈ parts ∧ p.Fails further e := by
  induction h with
  | here h => exact ⟨List.mem_cons_self, h⟩
  | later _ _ ih => exact ⟨List.mem_cons_of_mem _ ih.1, ih.2⟩

/-! ## Adding parts -/

/-- The streams of a part's value are opened. -/
theorem wp_openAll_of_part {v : Value} (h : p.valueIn further = .ok v) (s : State) :
    wp (openAll v) (fun _ s' => s'.charsets = s.charsets) (fun _ _ => False) s := by
  unfold Part.valueIn at h
  split at h
  · cases h
    exact rfl
  · split at h
    · cases h
      exact rfl
    · split at h
      · cases h
        exact rfl
      · split at h <;> cases h

/-- A part is added unless it fails. -/
theorem wp_addPart (values : Table String Value) (p : Part) (s : State) :
    wp (addPart values p)
      (fun _ s' => s'.charsets = s.charsets ∧ ∀ e, ¬ p.Fails s.charsets e)
      (fun e _ => p.Fails s.charsets e) s := by
  unfold addPart
  rw [wp_bind, wp_count]
  cases hname : p.name with
  | none => exact ⟨rfl, fun e h => h.named hname⟩
  | some name =>
    cases hempty : p.isEmptyUpload with
    | true => exact ⟨rfl, fun e h => Bool.false_ne_true (h.sent.symm.trans hempty)⟩
    | false =>
      simp only [Bool.false_eq_true, if_false]
      rw [wp_bind, wp_get, wp_bind]
      cases hvalue : p.valueIn s.charsets with
      | error e => exact ⟨hname ▸ Option.some_ne_none name, hempty, hvalue⟩
      | ok v =>
        rw [wp_ofExcept_ok, wp_bind]
        refine wp_mono (wp_openAll_of_part hvalue _) ?_ fun _ _ h => h.elim
        intro _ s' hsame
        exact ⟨hsame, fun e h => nomatch hvalue.symm.trans h.value⟩

/-- **Parts are added up to the first one that fails.** -/
theorem wp_addParts (parts : List Part) (values : Table String Value) (s : State) :
    wp (parts.foldlM addPart values)
      (fun _ s' => s'.charsets = s.charsets ∧ ∀ p ∈ parts, ∀ e, ¬ p.Fails s.charsets e)
      (fun e _ => ∃ p, FirstFails s.charsets parts p e) s := by
  induction parts generalizing values s with
  | nil => exact ⟨rfl, fun _ hp => (List.not_mem_nil hp).elim⟩
  | cons p rest ih =>
    rw [List.foldlM_cons, wp_bind]
    refine wp_mono (wp_addPart values p s) ?_ fun e _ h => ⟨p, .here h⟩
    rintro values' s' ⟨hsame, hp⟩
    -- the character sets are those of the start, whatever has been added
    refine wp_mono (hsame ▸ ih values' s') ?_ fun e _ h => h.imp fun _ => .later hp
    rintro _ s₂ ⟨hsame', hrest⟩
    exact ⟨hsame', List.forall_mem_cons.2 ⟨hp, hrest⟩⟩

/-- Adding parts fails with the first that has no value. -/
theorem exists_run_addParts (h : FirstFails s.charsets parts p e) (values : Table String Value) :
    ∃ s', (parts.foldlM addPart values).run s = (.error e, s') := by
  have hwp := wp_addParts parts values s
  unfold wp at hwp
  cases hrun : (parts.foldlM addPart values).run s with
  | mk result s' =>
    rw [hrun] at hwp
    cases result with
    | ok _ => exact (hwp.2 p h.fails.1 e h.fails.2).elim
    | error e' =>
      obtain ⟨p', hfirst⟩ := hwp
      exact ⟨s', by rw [h.unique hfirst]⟩

/-! ## Draining a reader -/

/-- Feeding a chunk fails with multipart errors only. -/
theorem Reader.isMultipart_of_feed {r next : Reader} {chunk : List UInt8}
    (h : r.feed chunk = (.error e, next)) : e.IsMultipart := by
  unfold Reader.feed at h
  split at h
  · cases h
  · have hcases := Reader.outcome_cases { r with buffer := r.buffer ++ chunk }
    rwa [Reader.outcome, h] at hcases

/-- A body that has no end is refused. -/
theorem Reader.isMultipart_of_close {r : Reader} (h : r.close = .error e) : e.IsMultipart := by
  unfold Reader.close at h
  split at h
  · cases h
  · cases h
    exact Error.isMultipart _ _

/-- The part is the first that fails of those that the reader has given out after some of the
chunks. -/
def GivesOut (further : Charsets) (r : Reader) (chunks : List (List UInt8)) (p : Part) (e : Error) :
    Prop :=
  ∃ n parts final, r.feedAll (chunks.take n) = .ok (parts, final) ∧ FirstFails further parts p e

/-- The part that is given out fails. -/
theorem GivesOut.fails {r : Reader} {chunks : List (List UInt8)}
    (h : GivesOut further r chunks p e) : p.Fails further e := by
  obtain ⟨n, parts, final, -, hfirst⟩ := h
  exact hfirst.fails.2

/-- **A reader is drained, or it refuses the body, or a part that it has given out fails.** -/
theorem wp_drain (r : Reader) (values : Table String Value) (chunks : List (List UInt8))
    (s : State) :
    wp (r.drain values chunks) (fun _ _ => True)
      (fun e _ => e.IsMultipart ∨ ∃ p, GivesOut s.charsets r chunks p e) s := by
  induction chunks generalizing r values s with
  | nil =>
    rw [Reader.drain, wp_bind]
    cases hclose : r.close with
    | ok _ => trivial
    | error e => exact .inl (Reader.isMultipart_of_close hclose)
  | cons chunk rest ih =>
    cases hfeed : r.feed chunk with
    | mk result next =>
      cases result with
      | error e =>
        rw [Reader.drain, hfeed]
        exact .inl (Reader.isMultipart_of_feed hfeed)
      | ok first =>
        rw [drain_cons hfeed, wp_bind]
        refine wp_mono (wp_addParts first values s) ?_ ?_
        · rintro values' s' ⟨hsame, hfirst⟩
          refine wp_mono (ih next values' s') (fun _ _ h => h) fun e _ h => h.imp_right ?_
          rintro ⟨p, n, parts, final, hparts, hfails⟩
          -- what fails later stands behind the parts of this chunk
          exact ⟨p, n + 1, first ++ parts, final,
            Reader.feedAll_cons_eq_ok_iff.2 ⟨first, next, parts, hfeed, hparts, rfl⟩,
            .append hfirst (hsame ▸ hfails)⟩
        · rintro e _ ⟨p, hfails⟩
          exact .inr ⟨p, 1, first, next,
            Reader.feedAll_cons_eq_ok_iff.2 ⟨first, next, [], hfeed, rfl, (List.append_nil _).symm⟩,
            hfails⟩

/-- Draining fails with the first part given out that has no value. -/
theorem exists_run_drain {r : Reader} {chunks : List (List UInt8)}
    (h : GivesOut s.charsets r chunks p e) (values : Table String Value) :
    ∃ s', (r.drain values chunks).run s = (.error e, s') := by
  obtain ⟨n, parts, final, hparts, hfails⟩ := h
  obtain ⟨s', hrun⟩ := exists_run_addParts hfails values
  rw [← List.take_append_drop n chunks, drain_append hparts, run_bind, hrun]
  exact ⟨s', rfl⟩

/-! ## Draining a body -/

variable {contentType : Option String} {limits : Limits} {chunks : List (List UInt8)}

/-- A content type without a boundary is refused. -/
theorem isMultipart_of_boundaryOf (h : boundaryOf contentType = .error e) : e.IsMultipart := by
  rw [boundaryOf] at h
  split at h
  · cases h
    exact Error.isMultipart _ _
  · split at h
    · cases h
    · cases h
      exact Error.isMultipart _ _

/-- The ways in which a body fails to be drained without being refused. -/
inductive Escapes (further : Charsets) (limits : Limits) (contentType : Option String)
    (chunks : List (List UInt8)) : Error → Prop
  /-- The boundary is no Latin-1 text. -/
  | boundary {boundary : String} {chars : List Char} {position : Nat}
      (hboundary : boundaryOf contentType = .ok boundary)
      (hlatin1 : encodeLatin1From 0 boundary.toList = .error (chars, position)) :
      Escapes further limits contentType chunks (.fault (.notLatin1 chars position))
  /-- The first part that fails does so for its character set, not for the bytes. -/
  | charset {boundary : String} {r : Reader} {p : Part} {fault : CharsetFault}
      (hboundary : boundaryOf contentType = .ok boundary)
      (hreader : Reader.forBoundary boundary limits = .ok r)
      (hpart : GivesOut further r chunks p (.fault (.charset fault)))
      (hbreaks : Breaks further p.charset p.data fault) :
      Escapes further limits contentType chunks (.fault (.charset fault))

/-- A body is drained, or refused with a multipart error, or it fails in one of those ways. -/
theorem wp_readBody (dec : Decoder) (contentType : Option String) (chunks : List (List UInt8))
    (s : State) :
    wp (Decoder.decodeForm.readBody dec contentType (pure chunks)) (fun _ _ => True)
      (fun e _ => e.IsMultipart ∨ Escapes s.charsets dec.limits contentType chunks e) s := by
  rw [Decoder.decodeForm.readBody, wp_bind]
  cases hboundary : boundaryOf contentType with
  | error e => exact .inl (isMultipart_of_boundaryOf hboundary)
  | ok boundary =>
    rw [wp_ofExcept_ok, readForm, wp_bind]
    cases hlatin1 : encodeLatin1From 0 boundary.toList with
    | error found =>
      rw [Reader.forBoundary, hlatin1]
      exact .inr (.boundary hboundary hlatin1)
    | ok bytes =>
      have hreader : Reader.forBoundary boundary dec.limits =
          .ok { boundary := bytes, limits := dec.limits } := by rw [Reader.forBoundary, hlatin1]
      rw [hreader, wp_ofExcept_ok, wp_bind, wp_pure]
      refine wp_mono (wp_drain _ ∅ chunks s) (fun _ _ h => h) fun e _ h => ?_
      rcases h with hmultipart | ⟨p, hpart⟩
      · exact .inl hmultipart
      · rcases hpart.fails.cases with hmultipart | ⟨fault, rfl, hbreaks⟩
        · exact .inl hmultipart
        · exact .inr (.charset hboundary hreader hpart hbreaks)

/-- **A body fails to be drained without being refused in two ways only**: its boundary is no
Latin-1 text, or the first of its parts that fails does so for the name of a character set. -/
theorem readBody_escapes_iff (dec : Decoder) (contentType : Option String)
    (chunks : List (List UInt8)) (s : State) (e : Error) :
    (∃ s', (Decoder.decodeForm.readBody dec contentType (pure chunks)).run s = (.error e, s')) ∧
        ¬ e.IsMultipart ↔
      Escapes s.charsets dec.limits contentType chunks e := by
  constructor
  · rintro ⟨⟨s', hrun⟩, hescapes⟩
    exact (fail_of_run (wp_readBody dec contentType chunks s) hrun).resolve_left hescapes
  · intro h
    rw [Decoder.decodeForm.readBody]
    cases h with
    | boundary hboundary hlatin1 =>
      refine ⟨⟨s, ?_⟩, Error.not_isMultipart_fault _⟩
      rw [hboundary, ofExcept_ok_bind, readForm, Reader.forBoundary, hlatin1]
      rfl
    | charset hboundary hreader hpart _ =>
      refine ⟨?_, Error.not_isMultipart_fault _⟩
      rw [hboundary, ofExcept_ok_bind, readForm, hreader, ofExcept_ok_bind, pure_bind]
      exact exists_run_drain hpart ∅

/-- The euro sign is no Latin-1 character, and a boundary that holds one is not refused. -/
theorem boundary_escapes :
    ((Decoder.decodeForm.readBody ({} : Api).decoder (some "multipart/form-data; boundary=€")
      (pure [])).run {}).1 = .error (.fault (.notLatin1 ['€'] 0)) ∧
      ¬ (Error.fault (.notLatin1 ['€'] 0)).IsMultipart :=
  ⟨rfl, Error.not_isMultipart_fault _⟩

end Multipart

end ApiShape
