import ApiShape.Proofs.Multipart.Step
import ApiShape.Proofs.Text.Occurrence

/-!
# How a multipart body is cut into chunks does not matter

The answer of a reader that is fed until its first error is a function of the concatenation of the
chunks alone.

The argument compares a reader with the same reader after more bytes have been put behind its buffer
(`Reader.push`), one step at a time:

* **`Advances.push`** — a step that moves on moves on in the same way with more bytes in sight;
* **`Rejects.push`** — a step that fails fails with the same error. The size check is the delicate
  case: it may fire on a part that is still growing;
* **`step_push_of_wait`** — a step that waits has thrown away only bytes that no longer matter.

`outcome_push` lifts them to whole runs by induction on the run, and `feedAll_eq_outcome` to any
list of chunks.
-/

namespace ApiShape.Multipart.Reader

open Text

variable {r r' : Reader} {part : Option Part} {e : Error}

/-! ## More bytes behind the buffer

The bytes change nothing but the buffer, and what is complete at the head of the buffer stays
complete. -/

/-- The reader with more bytes behind its buffer. -/
def push (r : Reader) (bytes : List UInt8) : Reader := { r with buffer := r.buffer ++ bytes }

@[simp] theorem push_nil (r : Reader) : r.push [] = r := by simp [push]

/-- Pushing bytes one after the other is pushing them at once. -/
theorem push_push (r : Reader) (a b : List UInt8) : (r.push a).push b = r.push (a ++ b) := by
  simp [push]

@[simp] theorem push_phase (r : Reader) (bytes : List UInt8) : (r.push bytes).phase = r.phase := rfl

@[simp] theorem push_buffer (r : Reader) (bytes : List UInt8) :
    (r.push bytes).buffer = r.buffer ++ bytes := rfl

@[simp] theorem push_data (r : Reader) (bytes : List UInt8) : (r.push bytes).data = r.data := rfl

@[simp] theorem push_limits (r : Reader) (bytes : List UInt8) :
    (r.push bytes).limits = r.limits := rfl

@[simp] theorem push_delimiter (r : Reader) (bytes : List UInt8) :
    (r.push bytes).delimiter = r.delimiter := rfl

@[simp] theorem push_marker (r : Reader) (bytes : List UInt8) : (r.push bytes).marker = r.marker :=
  rfl

@[simp] theorem isTooLarge_push (r : Reader) (bytes : List UInt8) :
    (r.push bytes).isTooLarge = r.isTooLarge := rfl

/-- A header block that is complete stays as it is. -/
theorem headerBlock?_append {buffer block rest : List UInt8} (bytes : List UInt8)
    (h : headerBlock? buffer = some (block, rest)) :
    headerBlock? (buffer ++ bytes) = some (block, rest ++ bytes) := by
  unfold headerBlock? at h ⊢
  split at h
  · next hp =>
    have hlen : crlf.length ≤ buffer.length := (List.isPrefixOf_iff_prefix.1 hp).length_le
    simp only [Option.some.injEq, Prod.mk.injEq] at h
    obtain ⟨rfl, rfl⟩ := h
    rw [isPrefixOf_append_eq hlen, if_pos hp, List.drop_append_of_le_length (i := 2) hlen]
  · next hp =>
    have hlen : crlf.length ≤ buffer.length := by
      have := length_of_cutAt? h
      simp only [List.length_append] at this
      omega
    rw [isPrefixOf_append_eq hlen, if_neg hp]
    exact cutAt?_append_of_some bytes h

/-- A part that is too large stays too large while it grows. -/
theorem isTooLarge_append {p : Part} {data : List UInt8} (more : List UInt8)
    (h : r.isTooLarge p data = true) : r.isTooLarge p (data ++ more) = true := by
  unfold isTooLarge at h ⊢
  split
  · simp_all
  · next limit hlimit =>
    simp only [hlimit, Bool.and_eq_true, decide_eq_true_eq, List.length_append] at h ⊢
    exact ⟨h.1, by omega⟩

/-! ## One step with more bytes in sight -/

/-- **A step that moves on moves on in the same way**, unless it reaches the end. -/
theorem Advances.push (bytes : List UInt8) (h : r.Advances r' part) (hopen : r'.isDone = false) :
    (r.push bytes).Advances (r'.push bytes) part := by
  cases h with
  | preamble before after hphase hcut =>
    exact .preamble before (after ++ bytes) hphase (cutAt?_append_of_some bytes hcut)
  | finish => simp [isDone] at hopen
  | begin rest hphase hbuffer =>
    exact .begin (rest ++ bytes) hphase (by simp [hbuffer])
  | headers block rest hphase hblock hallowed =>
    exact .headers block (rest ++ bytes) hphase (headerBlock?_append bytes hblock) hallowed
  | body p before after hphase hcut hsize =>
    exact .body p before (after ++ bytes) hphase (cutAt?_append_of_some bytes hcut) hsize

/-- **A step that reaches the end reaches it with any bytes behind the buffer**, and drops them. -/
theorem Advances.push_of_done (bytes : List UInt8) (h : r.Advances r' part)
    (hdone : r'.isDone = true) : (r.push bytes).Advances r' part ∧ r'.buffer = [] := by
  cases h with
  | finish rest hphase hbuffer =>
    exact ⟨.finish (rest ++ bytes) hphase (by simp [hbuffer]), rfl⟩
  | preamble | begin | headers | body => simp [isDone] at hdone

/-- As many bytes more are safe as come in, once any are. -/
theorem safeLength_push (bytes : List UInt8) (hsafe : r.safeLength ≠ 0) :
    (r.push bytes).safeLength = r.safeLength + bytes.length := by
  simp only [safeLength, push_marker, push_buffer, List.length_append] at hsafe ⊢
  omega

/-- Moving safe bytes in one go or in two, with more bytes coming in between. -/
theorem movedFirst_push (bytes : List UInt8) {k : Nat} (hk : k ≤ r.buffer.length) (n : Nat) :
    (r.push bytes).movedFirst (k + n) = ((r.movedFirst k).push bytes).movedFirst n := by
  simp only [movedFirst, moved, push, Reader.mk.injEq, true_and, List.append_assoc,
    List.append_cancel_left_eq]
  rw [List.take_add, ← List.drop_drop, List.take_append_of_le_length hk,
    List.drop_append_of_le_length hk]
  exact ⟨rfl, rfl⟩

/-- While no marker is in sight, all safe bytes may be moved before it is looked for again. -/
theorem cutAt?_marker_push (bytes : List UInt8) (hcut : cutAt? r.marker r.buffer = none)
    (hsafe : r.safeLength ≠ 0) :
    cutAt? r.marker (r.buffer ++ bytes) =
      (cutAt? r.marker (r.buffer.drop r.safeLength ++ bytes)).map fun (before, after) =>
        (r.buffer.take r.safeLength ++ before, after) := by
  apply cutAt?_append_of_none bytes hcut
  rw [safeLength] at hsafe ⊢
  omega

/-- **A step that fails fails with the same error.** A part that was refused while it was growing is
larger still where its marker comes in sight. -/
theorem Rejects.push (bytes : List UInt8) (h : r.Rejects e) : (r.push bytes).Rejects e := by
  cases h with
  | boundary a b rest hphase hbuffer hdashes hcrlf =>
    exact .boundary a b (rest ++ bytes) hphase (by simp [hbuffer]) hdashes hcrlf
  | file block rest hphase hblock hrefused =>
    exact .file block (rest ++ bytes) hphase (headerBlock?_append bytes hblock) hrefused
  | complete p before after hphase hcut hsize =>
    exact .complete p before (after ++ bytes) hphase (cutAt?_append_of_some bytes hcut) hsize
  -- a part that has grown too large without an end stays so, whether its end comes or not
  | growing p hphase hcut hsafe hsize =>
    have hsplit := cutAt?_marker_push bytes hcut hsafe
    cases hlater : cutAt? r.marker (r.buffer.drop r.safeLength ++ bytes) with
    | none =>
      rw [hlater, Option.map_none] at hsplit
      refine .growing p hphase hsplit (by rw [safeLength_push bytes hsafe]; omega) ?_
      rw [safeLength_push bytes hsafe, movedFirst_push bytes r.safeLength_le]
      exact isTooLarge_append _ hsize
    | some cut =>
      rw [hlater, Option.map_some] at hsplit
      refine .complete p (r.buffer.take r.safeLength ++ cut.1) cut.2 hphase hsplit ?_
      rw [push_data, isTooLarge_push, ← List.append_assoc]
      exact isTooLarge_append _ hsize

/-! ## Waiting

A step that waits drops bytes in front of a first delimiter or moves bytes to the open part. Either
way the reader that is left takes the same step as the reader that it came from. -/

/-- The last bytes of a text are those of any of its ends that is long enough. -/
theorem keepLast_append (count : Nat) (buffer bytes : List UInt8) :
    keepLast count (keepLast count buffer ++ bytes) = keepLast count (buffer ++ bytes) := by
  simp only [keepLast, List.length_append, List.length_drop]
  by_cases hlen : buffer.length ≤ count
  · rw [Nat.sub_eq_zero_of_le hlen, List.drop_zero, Nat.sub_zero]
  · have hdrop : buffer.drop (buffer.length - count) ++ bytes
        = (buffer ++ bytes).drop (buffer.length - count) :=
      (List.drop_append_of_le_length (Nat.sub_le ..)).symm
    rw [hdrop, List.drop_drop]
    congr 1
    omega

/-- What has been dropped of the preamble does not matter for the bytes to come. -/
theorem skipPreamble_push (bytes : List UInt8) (h : cutAt? r.delimiter r.buffer = none) :
    (r.push bytes).skipPreamble = (r.retained.push bytes).skipPreamble := by
  -- too short to hold a marker: nothing was thrown away
  rcases Nat.lt_or_ge r.buffer.length (r.delimiter.length - 1) with hshort | hlong
  · have hkeep : r.retained = r := by
      rw [retained, keepLast, Nat.sub_eq_zero_of_le (Nat.le_of_lt hshort), List.drop_zero]
    rw [hkeep]
  · -- what was thrown away holds no marker, nor the beginning of one
    have hsplit := cutAt?_append_of_none bytes h
      (k := r.buffer.length - (r.delimiter.length - 1)) (by omega)
    cases hlater : cutAt? r.delimiter
        (r.buffer.drop (r.buffer.length - (r.delimiter.length - 1)) ++ bytes) with
    | none =>
      rw [hlater, Option.map_none] at hsplit
      rw [skipPreamble_of_none (r := r.retained.push bytes) hlater,
        skipPreamble_of_none (r := r.push bytes) hsplit]
      simp only [retained, push, Step.wait.injEq, Reader.mk.injEq, true_and, and_true]
      exact (keepLast_append _ r.buffer bytes).symm
    | some cut =>
      rw [hlater, Option.map_some] at hsplit
      rw [skipPreamble_of_some (r := r.retained.push bytes) hlater,
        skipPreamble_of_some (r := r.push bytes) hsplit]
      rfl

/-- With the safe bytes moved, the buffer is one byte short of a marker. -/
theorem length_buffer_movedFirst (hsafe : r.safeLength ≠ 0) :
    (r.movedFirst r.safeLength).buffer.length = r.marker.length - 1 := by
  simp only [movedFirst, moved, List.length_drop]
  rw [safeLength] at hsafe ⊢
  omega

/-- With the safe bytes moved, as many bytes are safe as come in. -/
theorem safeLength_push_movedFirst (bytes : List UInt8) (hsafe : r.safeLength ≠ 0) :
    ((r.movedFirst r.safeLength).push bytes).safeLength = bytes.length := by
  rw [safeLength, push_buffer, List.length_append, length_buffer_movedFirst hsafe]
  exact Nat.add_sub_cancel_left ..

/-- What has been moved to the data does not matter for the bytes to come. -/
theorem readBody_push (bytes : List UInt8) {p : Part} (hcut : cutAt? r.marker r.buffer = none)
    (hsafe : r.safeLength ≠ 0) (hsize : ¬ r.isTooLarge p (r.movedFirst r.safeLength).data = true) :
    (r.push bytes).readBody p = ((r.movedFirst r.safeLength).push bytes).readBody p := by
  have hsplit := cutAt?_marker_push bytes hcut hsafe
  have hgrown := safeLength_push bytes hsafe
  have hmoved := movedFirst_push bytes r.safeLength_le bytes.length
  cases hlater : cutAt? r.marker (r.buffer.drop r.safeLength ++ bytes) with
  | some cut =>
    rw [hlater, Option.map_some] at hsplit
    rw [readBody_of_some (r := (r.movedFirst r.safeLength).push bytes) hlater,
      readBody_of_some (r := r.push bytes) hsplit]
    simp only [push_data, isTooLarge_push, movedFirst_data, isTooLarge_movedFirst,
      List.append_assoc]
    congr 2
    simp [movedFirst, moved, push]
  | none =>
    rw [hlater, Option.map_none] at hsplit
    rw [readBody_of_none (r := (r.movedFirst r.safeLength).push bytes) hlater,
      readBody_of_none (r := r.push bytes) hsplit, safeLength_push_movedFirst bytes hsafe, hgrown,
      if_neg (by omega), hmoved]
    by_cases hbytes : bytes = []
    · -- nothing has come in: the reader that is left waits as it is
      subst hbytes
      rw [push_nil, List.length_nil, movedFirst_zero, if_pos rfl]
      exact if_neg hsize
    · rw [if_neg (mt List.eq_nil_of_length_eq_zero hbytes)]
      rfl

/-- **A step that waits has thrown away only bytes that no longer matter.** -/
theorem step_push_of_wait (bytes : List UInt8) (h : r.step = .wait r') :
    (r.push bytes).step = (r'.push bytes).step := by
  cases waits_of_step h with
  | boundary | headers | short => rfl
  | preamble hphase hcut =>
    have hkept : r.retained.phase = .preamble := hphase
    simp only [step_of_phase, push_phase, hphase, hkept]
    exact skipPreamble_push bytes hcut
  | growing p hphase hcut hsafe hsize =>
    have hmoved : (r.movedFirst r.safeLength).phase = .body p := hphase
    simp only [step_of_phase, push_phase, hphase, hmoved]
    exact readBody_push bytes hcut hsafe hsize
  | done hphase => simp [step, push, hphase]

/-- A reader that is done drops whatever comes. -/
theorem step_of_done (hdone : r.isDone = true) (hbuffer : r.buffer = []) (bytes : List UInt8) :
    (r.push bytes).step = .wait r := by
  obtain ⟨boundary, limits, phase, buffer, data⟩ := r
  cases phase <;> simp_all [isDone, step, push]

/-! ## Runs and lists of chunks -/

/-- A run leaves a reader that waits as it is, and fails with multipart errors only. -/
theorem outcome_cases (r : Reader) :
    match r.outcome with
    | .ok (_, final) => final.step = .wait final
    | .error e => ∃ fault field, e = .multipart fault field := by
  -- a run that ends waits for more: an empty chunk moves nothing
  induction r using run_induction with
  | wait r final hstep =>
    rw [outcome_of_wait hstep]
    have hstays := step_push_of_wait [] hstep
    rw [push_nil, push_nil] at hstays
    exact hstays.symm.trans hstep
  | fail r e final hstep =>
    rw [outcome_of_fail hstep]
    exact (rejects_of_step hstep).exists_multipart
  | next r r' part hstep ih =>
    rw [outcome_of_next hstep]
    cases hrest : r'.outcome with
    | error e => rwa [hrest] at ih
    | ok result => rwa [hrest] at ih

/-- A run that went on after more bytes came in is the run with all bytes. -/
def thenPush (bytes : List UInt8) (result : List Part × Reader) :
    Except Error (List Part × Reader) :=
  (result.2.push bytes).outcome.map fun (more, final) => (result.1 ++ more, final)

/-- **Feeding on is feeding at once.** Induction on the run: each of its steps is the step that the
reader takes with all bytes in sight. -/
theorem outcome_push (r : Reader) (bytes : List UInt8) :
    (r.push bytes).outcome = r.outcome.bind (thenPush bytes) := by
  induction r using run_induction with
  | wait r final hstep =>
    rw [outcome_congr (step_push_of_wait bytes hstep), outcome_of_wait hstep]
    cases h : (final.push bytes).outcome <;> simp [Except.bind, thenPush, h, Except.map]
  | fail r e final hstep =>
    obtain ⟨final', hstep'⟩ := step_of_rejects ((rejects_of_step hstep).push bytes)
    rw [outcome_of_fail hstep', outcome_of_fail hstep]
    rfl
  | next r r' part hstep ih =>
    have hadv := advances_of_step hstep
    cases hdone : r'.isDone with
    | false =>
      have hpush := step_of_advances (hadv.push bytes hdone)
      rw [outcome_of_next hpush, outcome_of_next hstep, ih]
      cases h : r'.outcome with
      | error e => rfl
      | ok result =>
        cases h' : (result.2.push bytes).outcome <;>
          simp [Except.bind, Except.map, thenPush, h']
    | true =>
      -- the end has been reached: what comes behind it is dropped, now or later
      obtain ⟨hpush, hbuffer⟩ := hadv.push_of_done bytes hdone
      have hlater : (r'.push bytes).outcome = .ok ([], r') :=
        outcome_of_wait (step_of_done hdone hbuffer bytes)
      have hnow : r'.outcome = .ok ([], r') := by
        have hwaits := outcome_of_wait (step_of_done hdone hbuffer [])
        rwa [push_nil] at hwaits
      rw [outcome_of_next (step_of_advances hpush), outcome_of_next hstep, hnow]
      simp [Except.bind, Except.map, thenPush, hlater]

/-- Feeding one chunk is a run on the longer buffer, also behind the end of the body. -/
theorem feed_eq_outcome (hwait : r.step = .wait r) (chunk : List UInt8) :
    (r.feed chunk).1.map (·, (r.feed chunk).2) = (r.push chunk).outcome := by
  cases hdone : r.isDone with
  | false =>
    rw [feed, hdone]
    rfl
  | true =>
    have hbuffer : r.buffer = [] := by
      obtain ⟨boundary, limits, phase, buffer, data⟩ := r
      cases phase <;> simp_all [isDone, step]
    rw [outcome_of_wait (step_of_done hdone hbuffer chunk), feed, hdone]
    rfl

/-- **The answer to a list of chunks is the answer to their concatenation**, for a reader that has
nothing left to do on its own. -/
theorem feedAll_eq_outcome (hwait : r.step = .wait r) (chunks : List (List UInt8)) :
    r.feedAll chunks = (r.push chunks.flatten).outcome := by
  induction chunks generalizing r with
  | nil => rw [List.flatten_nil, push_nil, outcome_of_wait hwait, feedAll]
  | cons chunk rest ih =>
    rw [List.flatten_cons, ← push_push, outcome_push, feedAll_cons, feed_eq_outcome hwait]
    have hleft := outcome_cases (r.push chunk)
    cases hout : (r.push chunk).outcome with
    | error e => rfl
    | ok result =>
      rw [hout] at hleft
      show (result.2.feedAll rest).map _ = thenPush rest.flatten result
      rw [ih hleft, thenPush]

/-- A new reader waits for bytes. -/
theorem step_of_forBoundary {boundary : String} {limits : Limits}
    (h : forBoundary boundary limits = .ok r) : r.step = .wait r := by
  rw [forBoundary] at h
  split at h <;> cases h
  simp [step, skipPreamble, delimiter, cutAt?, keepLast]

/-- **Chunking does not matter.** Two lists of chunks with the same concatenation, each fed to a new
reader until its first error, both fail with the same fault and field, or both complete the same
parts and leave readers that are done, or not, alike. -/
theorem feedAll_chunking {boundary : String} {limits : Limits} {r : Reader}
    (hr : forBoundary boundary limits = .ok r) {chunks chunks' : List (List UInt8)}
    (hsame : chunks.flatten = chunks'.flatten) :
    (∃ fault field, r.feedAll chunks = .error (.multipart fault field) ∧
      r.feedAll chunks' = .error (.multipart fault field)) ∨
    ∃ parts final final', r.feedAll chunks = .ok (parts, final) ∧
      r.feedAll chunks' = .ok (parts, final') ∧ final.isDone = final'.isDone ∧
      final.close = final'.close := by
  have hwait := step_of_forBoundary hr
  -- both are the outcome of all the bytes at once
  have heq : r.feedAll chunks = r.feedAll chunks' := by
    rw [feedAll_eq_outcome hwait, feedAll_eq_outcome hwait, hsame]
  have hcases := outcome_cases (r.push chunks'.flatten)
  rw [← feedAll_eq_outcome hwait chunks'] at hcases
  cases hout : r.feedAll chunks' with
  | error e =>
    left
    rw [hout] at hcases
    obtain ⟨fault, field, rfl⟩ := hcases
    exact ⟨fault, field, heq.trans hout, rfl⟩
  | ok result =>
    right
    exact ⟨result.1, result.2, result.2, heq.trans hout, rfl, rfl, rfl⟩

/-- An upload of two bytes over a limit of one, cut between CR and LF, inside the delimiter and one
byte short of the limit, or not cut at all. -/
theorem feedAll_chunking_upload :
    let limits : Limits := { maxPartSize := some 1 }
    let r : Reader := { boundary := [98], limits }
    let head := "--b\r\nContent-Disposition: form-data; filename=f\r\n\r\n".toUTF8.toList
    let body : List UInt8 := [120, 121, 13, 10, 45, 45, 98, 45, 45]
    let cuts := [head ++ [120], [121, 13], [10, 45], [45, 98, 45, 45]]
    forBoundary "b" limits = .ok r ∧ cuts.flatten = [head ++ body].flatten ∧
      ((∃ fault field, r.feedAll cuts = .error (.multipart fault field) ∧
        r.feedAll [head ++ body] = .error (.multipart fault field)) ∨
      ∃ parts final final', r.feedAll cuts = .ok (parts, final) ∧
        r.feedAll [head ++ body] = .ok (parts, final') ∧ final.isDone = final'.isDone ∧
        final.close = final'.close) := by
  intro limits r head body cuts
  have hr : forBoundary "b" limits = .ok r := by rfl
  have hsame : cuts.flatten = [head ++ body].flatten := by simp [cuts, body]
  exact ⟨hr, hsame, feedAll_chunking hr hsame⟩

end ApiShape.Multipart.Reader
