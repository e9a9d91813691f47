import ApiShape.Proofs.Multipart.Chunking

/-!
# What a reader holds back

Between feeds a reader keeps only the bytes that it cannot decide about yet. What it keeps is told
by the bytes of the body alone: a phase begins behind the bytes that have been read for good
(`Begins`), and the bytes behind them are those that the phase is about (`Holds`).

Since the chunks do not matter, a single run over all bytes is looked at (`feedAll_eq_outcome`). As
long as it goes on, the buffer has all bytes behind the place where the reader stands (`StandsAt`):

* `Begins.unique` — the bytes and the parts that are complete tell where a phase begins;
* **`Advances.standsAt`** — a step that moves on stands where the next phase begins;
* **`Waits.holds`** — the step that waits puts aside what it can decide, and keeps the rest;
* **`Runs.holds`** — so a run without an error, by induction on its steps.
-/

namespace ApiShape.Multipart

open Text

/-! ## Where the phases of a body begin -/

/-- The bytes of a header block, up to the end of the blank line behind it. A block without headers
is a blank line alone. -/
inductive HeaderBytes : (block bytes : List UInt8) → Prop
  | blank : HeaderBytes [] crlf
  | lines {block : List UInt8} (hblank : ¬ crlf <+: block ++ (crlf ++ crlf))
      (hend : EndsAtFirst (crlf ++ crlf) (block ++ (crlf ++ crlf))) :
      HeaderBytes block (block ++ (crlf ++ crlf))

/-- The phase begins behind the bytes `front` of a body, in which the given parts are complete. The
first delimiter and the markers behind parts are the first ones in sight. -/
inductive Begins (delimiter : List UInt8) : (front : List UInt8) → List Part → Phase → Prop
  | preamble : Begins delimiter [] [] .preamble
  | delimiter {front : List UInt8} (hfront : EndsAtFirst delimiter front) :
      Begins delimiter front [] .boundary
  | headers {front : List UInt8} {parts : List Part} (h : Begins delimiter front parts .boundary) :
      Begins delimiter (front ++ crlf) parts .headers
  | body {front block bytes : List UInt8} {parts : List Part}
      (h : Begins delimiter front parts .headers) (hbytes : HeaderBytes block bytes) :
      Begins delimiter (front ++ bytes) parts (.body (Reader.partOf block))
  | marker {front data : List UInt8} {parts : List Part} {p : Part}
      (h : Begins delimiter front parts (.body p))
      (hdata : EndsAtFirst (crlf ++ delimiter) (data ++ (crlf ++ delimiter))) :
      Begins delimiter (front ++ (data ++ (crlf ++ delimiter))) (parts ++ [{ p with data }])
        .boundary
  | done {front : List UInt8} {parts : List Part} (h : Begins delimiter front parts .boundary) :
      Begins delimiter (front ++ [45, 45]) parts .done

variable {delimiter front front' block block' bytes bytes' s : List UInt8} {parts : List Part}
  {phase : Phase} {p : Part}

/-- A text starts with one header block. -/
theorem HeaderBytes.unique (h : HeaderBytes block bytes) (h' : HeaderBytes block' bytes')
    (hs : bytes <+: s) (hs' : bytes' <+: s) : bytes = bytes' := by
  have hshort (block : List UInt8) : crlf.length ≤ (block ++ (crlf ++ crlf)).length := by
    simp [crlf]
  cases h with
  | blank =>
    cases h' with
    | blank => rfl
    | lines hblank => exact absurd (List.prefix_of_prefix_length_le hs hs' (hshort _)) hblank
  | lines hblank hend =>
    cases h' with
    | blank => exact absurd (List.prefix_of_prefix_length_le hs' hs (hshort _)) hblank
    | lines _ hend' => exact hend.unique hend' hs hs'

/-- A part is opened without data. -/
theorem Begins.data_eq_nil (h : Begins delimiter front parts (.body p)) : p.data = [] := by
  cases h
  rfl

theorem Begins.front_eq_nil (h : Begins delimiter front parts .preamble) : front = [] := by
  cases h
  rfl

/-- Behind a delimiter either no part is complete, or the one in front of it is. -/
theorem Begins.boundary_cases (h : Begins delimiter front parts .boundary) :
    (parts = [] ∧ EndsAtFirst delimiter front) ∨
      ∃ before data completed p, Begins delimiter before completed (.body p) ∧
        EndsAtFirst (crlf ++ delimiter) (data ++ (crlf ++ delimiter)) ∧
        front = before ++ (data ++ (crlf ++ delimiter)) ∧
        parts = completed ++ [{ p with data }] := by
  cases h with
  | delimiter hfront => exact .inl ⟨rfl, hfront⟩
  | marker h hdata => exact .inr ⟨_, _, _, _, h, hdata, rfl, rfl⟩

/-- **The bytes and the parts that are complete tell where a phase begins.** -/
theorem Begins.unique (h : Begins delimiter front parts phase)
    (h' : Begins delimiter front' parts phase) (hs : front <+: s) (hs' : front' <+: s) :
    front = front' := by
  induction h generalizing front' with
  -- every earlier phase is left once, so its own bytes are unique by induction
  | preamble => exact h'.front_eq_nil.symm
  | delimiter hfront =>
    rcases h'.boundary_cases with ⟨-, hfront'⟩ | ⟨_, _, _, _, _, _, _, hparts⟩
    · exact hfront.unique hfront' hs hs'
    · simp at hparts
  | headers _ ih =>
    cases h' with
    | headers h' =>
      rw [ih h' ((List.prefix_append _ _).trans hs) ((List.prefix_append _ _).trans hs')]
  | done _ ih =>
    cases h' with
    | done h' =>
      rw [ih h' ((List.prefix_append _ _).trans hs) ((List.prefix_append _ _).trans hs')]
  | @body front block bytes parts h hbytes ih =>
    -- the phase holds the part that the block gives, so the two blocks give one part
    generalize hphase : Phase.body (Reader.partOf block) = phase at h'
    cases h' with
    | body h' hbytes' =>
      obtain rfl := ih h' ((List.prefix_append _ _).trans hs) ((List.prefix_append _ _).trans hs')
      obtain ⟨rest, rfl⟩ := (List.prefix_append _ _).trans hs
      rw [List.prefix_append_right_inj] at hs hs'
      rw [hbytes.unique hbytes' hs hs']
    | _ => cases hphase
  | @marker front data parts p h hdata ih =>
    -- the marker ends a part: its data are the bytes up to the first marker, which is unique
    rcases h'.boundary_cases with ⟨hnil, -⟩ | ⟨before, data', _, p', h', hdata', rfl, hparts⟩
    · simp at hnil
    · obtain ⟨rfl, hlast⟩ := List.append_inj' hparts rfl
      obtain ⟨hpart, rfl⟩ : p = p' ∧ data = data' := by
        have hnil := h.data_eq_nil
        have hnil' := h'.data_eq_nil
        cases p
        cases p'
        simp_all
      subst hpart
      obtain rfl := ih h' ((List.prefix_append _ _).trans hs) ((List.prefix_append _ _).trans hs')
      rfl

namespace Reader

variable {r r' final : Reader} {part : Option Part} {parts more : List Part} {bytes : List UInt8}

/-- What a reader holds that has been fed the bytes and has given out the parts. -/
inductive Holds (r : Reader) (bytes : List UInt8) (parts : List Part) : Prop
  /-- The end of the bytes, too short for a delimiter, while none has come. -/
  | preamble (hphase : r.phase = .preamble) (hparts : parts = [])
      (hnone : ¬ r.delimiter <:+: bytes) (hbuffer : r.buffer <:+ bytes)
      (hshort : r.buffer.length < r.delimiter.length)
  /-- At most one byte behind a delimiter. -/
  | boundary (front : List UInt8) (hphase : r.phase = .boundary)
      (hbegins : Begins r.delimiter front parts .boundary) (hbytes : bytes = front ++ r.buffer)
      (hshort : r.buffer.length ≤ 1)
  /-- A header block without its end. -/
  | headers (front : List UInt8) (hphase : r.phase = .headers)
      (hbegins : Begins r.delimiter front parts .headers) (hbytes : bytes = front ++ r.buffer)
      (hblank : ¬ crlf <+: r.buffer) (hend : ¬ crlf ++ crlf <:+: r.buffer)
  /-- The data of a part and bytes too short for a marker: all that came behind its headers. -/
  | body (p : Part) (front : List UInt8) (hphase : r.phase = .body p)
      (hbegins : Begins r.delimiter front parts (.body p))
      (hbytes : bytes = front ++ (r.data ++ r.buffer)) (hnone : ¬ r.marker <:+: r.data ++ r.buffer)
      (hshort : r.buffer.length < r.marker.length)
  /-- Nothing once the closing boundary has been read. -/
  | done (front rest : List UInt8) (hphase : r.phase = .done)
      (hbegins : Begins r.delimiter front parts .done) (hbytes : bytes = front ++ rest)
      (hbuffer : r.buffer = [])

theorem length_marker_pos (r : Reader) : 0 < r.marker.length := Nat.zero_lt_succ _

/-! ## Header blocks -/

theorem headerBlock?_eq_none_iff {buffer : List UInt8} :
    headerBlock? buffer = none ↔ ¬ crlf <+: buffer ∧ ¬ crlf ++ crlf <:+: buffer := by
  rw [headerBlock?, ← cutAt?_eq_none_iff, ← List.isPrefixOf_iff_prefix]
  split
  · next hblank => simp [hblank]
  · next hblank => simp [hblank]

/-- A header block is cut off with the blank line behind it. -/
theorem exists_headerBytes {buffer block rest : List UInt8}
    (h : headerBlock? buffer = some (block, rest)) :
    ∃ bytes, HeaderBytes block bytes ∧ buffer = bytes ++ rest := by
  rw [headerBlock?] at h
  split at h
  · next hblank =>
    obtain ⟨rest', rfl⟩ := List.isPrefixOf_iff_prefix.1 hblank
    cases h
    exact ⟨crlf, .blank, rfl⟩
  · next hblank =>
    obtain ⟨hbuffer, hend⟩ := cutAt?_eq_some (by simp [crlf]) h
    refine ⟨block ++ (crlf ++ crlf), .lines (fun hcrlf => hblank ?_) hend, hbuffer⟩
    rw [List.isPrefixOf_iff_prefix, hbuffer]
    exact hcrlf.trans (List.prefix_append _ rest)

/-! ## Where a reader stands -/

/-- The reader stands where its phase begins in the bytes, with nothing of the phase decided. Behind
the end of the body it has dropped the bytes. -/
inductive StandsAt (r : Reader) (bytes : List UInt8) (parts : List Part) : Prop
  | ahead (front : List UInt8) (hbegins : Begins r.delimiter front parts r.phase)
      (hbytes : bytes = front ++ r.buffer) (hdata : r.data = []) (hopen : r.isDone = false)
  | done (front rest : List UInt8) (hphase : r.phase = .done)
      (hbegins : Begins r.delimiter front parts .done) (hbytes : bytes = front ++ rest)
      (hbuffer : r.buffer = [])

/-- **A step that moves on stands where the next phase begins.** -/
theorem Advances.standsAt (h : r.Advances r' part) (hr : r.StandsAt bytes parts) :
    r'.StandsAt bytes (parts ++ part.toList) := by
  -- nothing is left after the last boundary
  cases hr with
  | done _ _ hphase => cases h <;> simp_all
  | ahead front hbegins hbytes hdata hopen =>
    -- in every other phase what was cut off the buffer is added to the bytes that were dealt with
    cases h with
    | preamble before after hphase hcut =>
      rw [hphase] at hbegins
      cases hbegins
      obtain ⟨hbuffer, hfirst⟩ := cutAt?_eq_some (by simp [delimiter]) hcut
      exact .ahead _ (.delimiter hfirst) (hbytes.trans hbuffer) hdata rfl
    | finish rest hphase hbuffer =>
      rw [hphase] at hbegins
      rw [Option.toList_none, List.append_nil]
      exact .done _ rest rfl (.done hbegins) (by simp [hbytes, hbuffer]) rfl
    | begin rest hphase hbuffer =>
      rw [hphase] at hbegins
      rw [Option.toList_none, List.append_nil]
      exact .ahead _ (.headers hbegins) (by simp [hbytes, hbuffer, crlf]) hdata rfl
    | headers block rest hphase hblock hallowed =>
      rw [hphase] at hbegins
      obtain ⟨header, hheader, hbuffer⟩ := exists_headerBytes hblock
      rw [Option.toList_none, List.append_nil]
      exact .ahead _ (.body hbegins hheader) (by simp [hbytes, hbuffer]) rfl rfl
    | body p before after hphase hcut hsize =>
      rw [hphase] at hbegins
      obtain ⟨hbuffer, hfirst⟩ := cutAt?_eq_some (by simp [marker, crlf]) hcut
      have hsplit : bytes = (front ++ (before ++ r.marker)) ++ after := by
        rw [hbytes, hbuffer, List.append_assoc front]
      rw [hdata, List.nil_append]
      exact .ahead _ (.marker hbegins hfirst) hsplit rfl rfl

/-- **The step that waits puts aside what it can decide, and keeps the rest.** -/
theorem Waits.holds (h : r.Waits r') (hr : r.StandsAt bytes parts) : r'.Holds bytes parts := by
  cases hr with
  | done front rest hphase hbegins hbytes hbuffer =>
    cases h with
    | done => exact .done front rest hphase hbegins hbytes rfl
    | _ => simp_all
  | ahead front hbegins hbytes hdata hopen =>
    cases h with
    | preamble hphase hcut =>
      rw [hphase] at hbegins
      cases hbegins
      obtain rfl : bytes = r.buffer := hbytes
      refine .preamble hphase rfl (cutAt?_eq_none_iff.1 hcut) (List.drop_suffix _ _) ?_
      simp only [retained, keepLast, List.length_drop, delimiter, List.length_cons]
      omega
    | boundary hphase hshort =>
      rw [hphase] at hbegins
      exact .boundary front hphase hbegins hbytes (Nat.le_of_lt_succ hshort)
    | headers hphase hblock =>
      rw [hphase] at hbegins
      obtain ⟨hblank, hend⟩ := headerBlock?_eq_none_iff.1 hblock
      exact .headers front hphase hbegins hbytes hblank hend
    | short p hphase hcut hsafe =>
      rw [hphase] at hbegins
      refine .body p front hphase hbegins (by rw [hdata]; exact hbytes)
        (by rw [hdata]; exact cutAt?_eq_none_iff.1 hcut) ?_
      have hpos := r.length_marker_pos
      rw [safeLength] at hsafe
      omega
    | growing p hphase hcut hsafe hsize =>
      rw [hphase] at hbegins
      -- the bytes are only shared out between the data and the buffer
      have hkept : (r.movedFirst r.safeLength).data ++ (r.movedFirst r.safeLength).buffer =
          r.buffer := by
        rw [movedFirst_data, hdata, List.nil_append]
        exact List.take_append_drop r.safeLength r.buffer
      refine .body p front hphase hbegins (by rw [hkept]; exact hbytes)
        (by rw [hkept]; exact cutAt?_eq_none_iff.1 hcut) ?_
      rw [length_buffer_movedFirst hsafe]
      exact Nat.sub_one_lt_of_lt r.length_marker_pos
    | done hphase => simp [isDone, hphase] at hopen

/-- **What is held at the end of a run**, by induction on its steps. -/
theorem Runs.holds (h : r.Runs more final) (hr : r.StandsAt bytes parts) :
    final.Holds bytes (parts ++ more) := by
  induction h generalizing parts with
  | wait hwait =>
    rw [List.append_nil]
    exact hwait.holds hr
  | next hadvances hrest ih =>
    rw [← List.append_assoc]
    exact ih (hadvances.standsAt hr)

/-- A run keeps the boundary. -/
theorem Runs.boundary_eq (h : r.Runs more final) : final.boundary = r.boundary := by
  induction h with
  | wait hwait => cases hwait <;> rfl
  | next hadvances hrest ih =>
    rw [ih]
    cases hadvances <;> rfl

/-- **A reader holds only what it cannot decide yet.** For every boundary, and whatever chunks it
has been fed without an error: before the first delimiter the buffer is shorter than a delimiter;
behind a delimiter it has at most one byte; in a header block it has no end of one; in a part the
data and the buffer are all that has come behind the headers of the part, have no marker in them,
and the buffer is shorter than a marker; and at the end it is empty. The place where the reader
stands is the only one that fits the bytes and the parts that are complete. -/
theorem holds_of_feedAll {boundary : String} {limits : Limits}
    (hr : forBoundary boundary limits = .ok r) {chunks : List (List UInt8)}
    (hfeed : r.feedAll chunks = .ok (parts, final)) :
    final.boundary = r.boundary ∧ final.Holds chunks.flatten parts ∧
      ∀ front front', Begins final.delimiter front parts final.phase →
        Begins final.delimiter front' parts final.phase →
        front <+: chunks.flatten → front' <+: chunks.flatten → front = front' := by
  rw [feedAll_eq_outcome (step_of_forBoundary hr)] at hfeed
  have hruns := runs_of_outcome hfeed
  have hnew : (r.push chunks.flatten).StandsAt chunks.flatten [] := by
    rw [forBoundary] at hr
    split at hr <;> cases hr
    exact .ahead [] .preamble rfl rfl rfl
  exact ⟨hruns.boundary_eq, hruns.holds hnew, fun front front' h h' => h.unique h'⟩

/-- Two chunks that are cut inside a marker. One part is complete; of the next one the first byte is
data, and the three behind it could begin a marker. -/
theorem holds_of_feedAll_open :
    let r : Reader := { boundary := [98] }
    let chunks : List (List UInt8) :=
      [[45, 45, 98, 13, 10, 13, 10, 120, 13, 10, 45, 45],
        [98, 13, 10, 13, 10, 121, 122, 13, 10, 45]]
    let p := partOf []
    let parts := [{ p with data := [120] }]
    let final : Reader := { r with phase := .body p, buffer := [122, 13, 10, 45], data := [121] }
    forBoundary "b" {} = .ok r ∧ r.feedAll chunks = .ok (parts, final) ∧
      final.boundary = r.boundary ∧ final.Holds chunks.flatten parts ∧
      ∀ front front', Begins final.delimiter front parts final.phase →
        Begins final.delimiter front' parts final.phase →
        front <+: chunks.flatten → front' <+: chunks.flatten → front = front' := by
  intro r chunks p parts final
  have hr : forBoundary "b" {} = .ok r := by rfl
  let at' (phase : Phase) (buffer : List UInt8) : Reader := { r with phase, buffer }
  have hbegin (rest : List UInt8) :
      (at' .boundary (13 :: 10 :: rest)).Advances (at' .headers rest) none := .begin rest rfl rfl
  have hblank (rest : List UInt8) :
      (at' .headers (13 :: 10 :: rest)).Advances (at' (.body p) rest) none :=
    .headers [] rest rfl rfl (by simp [Limits.allows, at', r])
  have hpreamble : (r.push chunks.flatten).Advances (at' .boundary
      [13, 10, 13, 10, 120, 13, 10, 45, 45, 98, 13, 10, 13, 10, 121, 122, 13, 10, 45]) none :=
    .preamble [] _ rfl rfl
  have hbody :
      (at' (.body p) [120, 13, 10, 45, 45, 98, 13, 10, 13, 10, 121, 122, 13, 10, 45]).Advances
      (at' .boundary [13, 10, 13, 10, 121, 122, 13, 10, 45]) (some { p with data := [120] }) :=
    .body p [120] _ rfl rfl (by simp [isTooLarge, at', r])
  have hwait : (at' (.body p) [121, 122, 13, 10, 45]).step = .wait final := by rfl
  have hfeed : r.feedAll chunks = .ok (parts, final) := by
    rw [feedAll_eq_outcome (step_of_forBoundary hr), outcome_of_advances hpreamble,
      outcome_of_advances (hbegin _), outcome_of_advances (hblank _), outcome_of_advances hbody,
      outcome_of_advances (hbegin _), outcome_of_advances (hblank _), outcome_of_wait hwait]
    rfl
  exact ⟨hr, hfeed, holds_of_feedAll hr hfeed⟩

end Reader

end ApiShape.Multipart
