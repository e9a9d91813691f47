import ApiShape.Multipart.Reader

/-!
# Steps and runs of a multipart reader

What one step of a reader can do, each guard included (`Waits`, `Advances`, `Rejects`,
**`step_cases`**), and what a run comes to by its first step (`outcome_of_wait`, `outcome_of_next`,
`outcome_of_fail`), or by all of them if it does not fail (`Runs`). What holds of a run is shown by
induction on its steps (`run_induction`). A reader is fed until its first error (`feedAll`).
-/

namespace ApiShape.Multipart.Reader

open Text

variable {r r' : Reader} {part : Option Part} {e : Error}

/-! ## What a step comes to in each phase -/

/-- Behind the first delimiter the body begins. -/
theorem skipPreamble_of_some {before after : List UInt8}
    (h : cutAt? r.delimiter r.buffer = some (before, after)) :
    r.skipPreamble = .next { r with buffer := after, phase := .boundary } none := by
  rw [skipPreamble, h]

/-- The reader once the bytes that cannot belong to the first delimiter have been dropped. -/
def retained (r : Reader) : Reader :=
  { r with buffer := keepLast (r.delimiter.length - 1) r.buffer }

/-- Without a delimiter all is preamble but for the bytes that may begin one. -/
theorem skipPreamble_of_none (h : cutAt? r.delimiter r.buffer = none) :
    r.skipPreamble = .wait r.retained := by
  rw [skipPreamble, h]
  rfl

/-- The part that a block of header lines opens. -/
def partOf (block : List UInt8) : Part := .ofHeaders (headerTable (Utf8.decodeLossy block))

/-- A complete header block starts a part, unless it is a file of a type that is not allowed. -/
theorem readHeaders_of_some {block rest : List UInt8}
    (h : headerBlock? r.buffer = some (block, rest)) :
    r.readHeaders =
      if (partOf block).isFile && !r.limits.allows (partOf block) then
        .fail (.multipart (.unsupportedFile (partOf block).contentType) (partOf block).name)
          { r with buffer := rest }
      else .next { r with buffer := rest, phase := .body (partOf block), data := [] } none := by
  rw [readHeaders, h]
  rfl

/-- The number of bytes at the head of the buffer that cannot belong to a marker. -/
def safeLength (r : Reader) : Nat := r.buffer.length - (r.marker.length - 1)

theorem safeLength_le (r : Reader) : r.safeLength ≤ r.buffer.length := Nat.sub_le ..

/-- The reader after bytes have been moved to the open part. -/
def moved (r : Reader) (bytes rest : List UInt8) : Reader :=
  { r with buffer := rest, data := r.data ++ bytes }

/-- The reader after its first `count` bytes have been moved to the open part. -/
def movedFirst (r : Reader) (count : Nat) : Reader :=
  r.moved (r.buffer.take count) (r.buffer.drop count)

@[simp] theorem movedFirst_data (r : Reader) (k : Nat) :
    (r.movedFirst k).data = r.data ++ r.buffer.take k := rfl

@[simp] theorem isTooLarge_movedFirst (r : Reader) (k : Nat) :
    (r.movedFirst k).isTooLarge = r.isTooLarge := rfl

@[simp] theorem movedFirst_zero (r : Reader) : r.movedFirst 0 = r := by simp [movedFirst, moved]

/-- A marker ends the part, unless its data have grown too large. -/
theorem readBody_of_some {p : Part} {before after : List UInt8}
    (h : cutAt? r.marker r.buffer = some (before, after)) :
    r.readBody p =
      if r.isTooLarge p (r.data ++ before) then
        .fail (.multipart .tooLarge p.name) (r.moved before after)
      else
        .next { r with buffer := after, phase := .boundary, data := [] }
          (some { p with data := r.data ++ before }) := by
  unfold readBody
  rw [h]
  rfl

/-- Without a marker all is data but for the bytes that may begin one. -/
theorem readBody_of_none {p : Part} (h : cutAt? r.marker r.buffer = none) :
    r.readBody p =
      if r.safeLength = 0 then .wait r
      else if r.isTooLarge p (r.movedFirst r.safeLength).data then
        .fail (.multipart .tooLarge p.name) (r.movedFirst r.safeLength)
      else .wait (r.movedFirst r.safeLength) := by
  unfold readBody
  rw [h]
  rfl

/-! ## The steps, as a relation

`Waits`, `Advances` and `Rejects` say what a step can do, each guard included. The facts about steps
below are case analyses on them. -/

/-- The ways in which a step waits for more bytes. Before it does, it drops what cannot belong to
the first delimiter, or moves what cannot belong to a marker to the open part. -/
inductive Waits (r : Reader) : Reader → Prop where
  | preamble (hphase : r.phase = .preamble) (hcut : cutAt? r.delimiter r.buffer = none) :
      Waits r r.retained
  | boundary (hphase : r.phase = .boundary) (hshort : r.buffer.length < 2) : Waits r r
  | headers (hphase : r.phase = .headers) (hblock : headerBlock? r.buffer = none) : Waits r r
  | short (p : Part) (hphase : r.phase = .body p) (hcut : cutAt? r.marker r.buffer = none)
      (hsafe : r.safeLength = 0) : Waits r r
  | growing (p : Part) (hphase : r.phase = .body p) (hcut : cutAt? r.marker r.buffer = none)
      (hsafe : r.safeLength ≠ 0)
      (hsize : ¬ r.isTooLarge p (r.movedFirst r.safeLength).data = true) :
      Waits r (r.movedFirst r.safeLength)
  | done (hphase : r.phase = .done) : Waits r { r with buffer := [] }

/-- The ways in which a step moves on to another reader, perhaps with a completed part. -/
inductive Advances (r : Reader) : Reader → Option Part → Prop where
  | preamble (before after : List UInt8) (hphase : r.phase = .preamble)
      (hcut : cutAt? r.delimiter r.buffer = some (before, after)) :
      Advances r { r with buffer := after, phase := .boundary } none
  | finish (rest : List UInt8) (hphase : r.phase = .boundary)
      (hbuffer : r.buffer = 45 :: 45 :: rest) :
      Advances r { r with buffer := [], phase := .done } none
  | begin (rest : List UInt8) (hphase : r.phase = .boundary)
      (hbuffer : r.buffer = 13 :: 10 :: rest) :
      Advances r { r with buffer := rest, phase := .headers } none
  | headers (block rest : List UInt8) (hphase : r.phase = .headers)
      (hblock : headerBlock? r.buffer = some (block, rest))
      (hallowed : ¬ ((partOf block).isFile && !r.limits.allows (partOf block)) = true) :
      Advances r { r with buffer := rest, phase := .body (partOf block), data := [] } none
  | body (p : Part) (before after : List UInt8) (hphase : r.phase = .body p)
      (hcut : cutAt? r.marker r.buffer = some (before, after))
      (hsize : ¬ r.isTooLarge p (r.data ++ before) = true) :
      Advances r { r with buffer := after, phase := .boundary, data := [] }
        (some { p with data := r.data ++ before })

/-- The ways in which a step fails. The bytes that make a part too large are those in front of its
marker or, while no marker is in sight, those that cannot belong to one. -/
inductive Rejects (r : Reader) : Error → Prop where
  | boundary (a b : UInt8) (rest : List UInt8) (hphase : r.phase = .boundary)
      (hbuffer : r.buffer = a :: b :: rest) (hdashes : [a, b] ≠ [45, 45]) (hcrlf : [a, b] ≠ crlf) :
      Rejects r (.multipart .malformedBoundary none)
  | file (block rest : List UInt8) (hphase : r.phase = .headers)
      (hblock : headerBlock? r.buffer = some (block, rest))
      (hrefused : ((partOf block).isFile && !r.limits.allows (partOf block)) = true) :
      Rejects r (.multipart (.unsupportedFile (partOf block).contentType) (partOf block).name)
  | complete (p : Part) (before after : List UInt8) (hphase : r.phase = .body p)
      (hcut : cutAt? r.marker r.buffer = some (before, after))
      (hsize : r.isTooLarge p (r.data ++ before) = true) :
      Rejects r (.multipart .tooLarge p.name)
  | growing (p : Part) (hphase : r.phase = .body p) (hcut : cutAt? r.marker r.buffer = none)
      (hsafe : r.safeLength ≠ 0)
      (hsize : r.isTooLarge p (r.movedFirst r.safeLength).data = true) :
      Rejects r (.multipart .tooLarge p.name)

/-- Each phase has a step of its own. -/
theorem step_of_phase (r : Reader) :
    r.step = match r.phase with
      | .preamble => r.skipPreamble
      | .boundary => r.afterBoundary
      | .headers => r.readHeaders
      | .body part => r.readBody part
      | .done => .wait { r with buffer := [] } := rfl

/-- The ways of going on are taken. -/
theorem step_of_advances (h : r.Advances r' part) : r.step = .next r' part := by
  cases h with
  | preamble before after hphase hcut => simp only [step, hphase, skipPreamble_of_some hcut]
  | finish rest hphase hbuffer => simp only [step, hphase, afterBoundary, hbuffer, if_true]
  | begin rest hphase hbuffer => simp [step, hphase, afterBoundary, hbuffer, crlf]
  | headers block rest hphase hblock hallowed =>
    simp only [step, hphase, readHeaders_of_some hblock, if_neg hallowed]
  | body p before after hphase hcut hsize =>
    simp only [step, hphase, readBody_of_some hcut, if_neg hsize]

/-- The ways of failing are taken. -/
theorem step_of_rejects (h : r.Rejects e) : ∃ r', r.step = .fail e r' := by
  cases h with
  | boundary a b rest hphase hbuffer hdashes hcrlf =>
    simp only [step, hphase, afterBoundary, hbuffer, if_neg hdashes, if_neg hcrlf]
    exact ⟨_, rfl⟩
  | file block rest hphase hblock hrefused =>
    simp only [step, hphase, readHeaders_of_some hblock, if_pos hrefused]
    exact ⟨_, rfl⟩
  | complete p before after hphase hcut hsize =>
    simp only [step, hphase, readBody_of_some hcut, if_pos hsize]
    exact ⟨_, rfl⟩
  | growing p hphase hcut hsafe hsize =>
    simp only [step, hphase, readBody_of_none hcut, if_neg hsafe, if_pos hsize]
    exact ⟨_, rfl⟩

/-- **What a step can do.** It waits, or it moves on or fails in one of the ways listed. -/
theorem step_cases (r : Reader) :
    match r.step with
    | .wait r' => r.Waits r'
    | .next r' part => r.Advances r' part
    | .fail e _ => r.Rejects e := by
  cases hphase : r.phase with
  | preamble =>
    simp only [step, hphase]
    cases hcut : cutAt? r.delimiter r.buffer with
    | none =>
      simp only [skipPreamble_of_none hcut]
      exact .preamble hphase hcut
    | some cut =>
      simp only [skipPreamble_of_some hcut]
      exact .preamble cut.1 cut.2 hphase hcut
  | boundary =>
    simp only [step, hphase, afterBoundary]
    -- two bytes behind a boundary tell whether the body ends or a part begins
    match hbuffer : r.buffer with
    | [] => exact .boundary hphase (by simp [hbuffer])
    | [_] => exact .boundary hphase (by simp [hbuffer])
    | a :: b :: rest =>
      by_cases hdashes : [a, b] = [45, 45]
      · obtain ⟨rfl, rfl⟩ : a = 45 ∧ b = 45 := by simpa using hdashes
        exact .finish rest hphase hbuffer
      · by_cases hcrlf : [a, b] = crlf
        · obtain ⟨rfl, rfl⟩ : a = 13 ∧ b = 10 := by simpa [crlf] using hcrlf
          exact .begin rest hphase hbuffer
        · simp only [if_neg hdashes, if_neg hcrlf]
          exact .boundary a b rest hphase hbuffer hdashes hcrlf
  | headers =>
    simp only [step, hphase]
    cases hblock : headerBlock? r.buffer with
    | none =>
      simp only [readHeaders, hblock]
      exact .headers hphase hblock
    | some block =>
      rw [readHeaders_of_some hblock]
      -- a file of a type that is not allowed is refused when its headers are complete
      by_cases hrefused : ((partOf block.1).isFile && !r.limits.allows (partOf block.1)) = true
      · rw [if_pos hrefused]
        exact .file block.1 block.2 hphase hblock hrefused
      · rw [if_neg hrefused]
        exact .headers block.1 block.2 hphase hblock hrefused
  | body p =>
    simp only [step, hphase]
    cases hcut : cutAt? r.marker r.buffer with
    | none =>
      rw [readBody_of_none hcut]
      -- all but the bytes that could begin a marker are data
      by_cases hsafe : r.safeLength = 0
      · rw [if_pos hsafe]
        exact .short p hphase hcut hsafe
      · rw [if_neg hsafe]
        by_cases hsize : r.isTooLarge p (r.movedFirst r.safeLength).data = true
        · rw [if_pos hsize]
          exact .growing p hphase hcut hsafe hsize
        · rw [if_neg hsize]
          exact .growing p hphase hcut hsafe hsize
    | some cut =>
      rw [readBody_of_some hcut]
      -- the part is complete
      by_cases hsize : r.isTooLarge p (r.data ++ cut.1) = true
      · rw [if_pos hsize]
        exact .complete p cut.1 cut.2 hphase hcut hsize
      · rw [if_neg hsize]
        exact .body p cut.1 cut.2 hphase hcut hsize
  | done =>
    have hdone : r.Waits { r with buffer := [] } := .done hphase
    simpa only [step, hphase] using hdone

/-- A step waits in the known ways only. -/
theorem waits_of_step (h : r.step = .wait r') : r.Waits r' := by
  have := step_cases r
  rwa [h] at this

/-- A step goes on in the known ways only. -/
theorem advances_of_step (h : r.step = .next r' part) : r.Advances r' part := by
  have := step_cases r
  rwa [h] at this

/-- A step fails in the known ways only. -/
theorem rejects_of_step (h : r.step = .fail e r') : r.Rejects e := by
  have := step_cases r
  rwa [h] at this

/-- A reader fails with multipart errors only. -/
theorem Rejects.exists_multipart (h : r.Rejects e) : ∃ fault field, e = .multipart fault field := by
  cases h <;> exact ⟨_, _, rfl⟩

/-! ## Runs, by their first step -/

/-- The result of a run. After an error the reader is given up. -/
def outcome (r : Reader) : Except Error (List Part × Reader) := r.run.1.map (·, r.run.2)

/-- A reader that waits has nothing more to give out. -/
theorem outcome_of_wait (h : r.step = .wait r') : r.outcome = .ok ([], r') := by
  rw [outcome, run]
  split <;> simp_all [Except.map]

theorem outcome_of_fail (h : r.step = .fail e r') : r.outcome = .error e := by
  rw [outcome, run]
  split <;> simp_all [Except.map]

/-- The outcome is that of the next reader, behind the part that the step has completed. -/
theorem outcome_of_next (h : r.step = .next r' part) :
    r.outcome = r'.outcome.map fun (parts, final) => (part.toList ++ parts, final) := by
  rw [outcome, run, outcome]
  split
  · simp_all
  · simp_all
  · next heq =>
    rw [h] at heq
    cases heq
    cases hrun : r'.run with
    | mk result final => cases result <;> rfl

theorem outcome_of_advances (h : r.Advances r' part) :
    r.outcome = r'.outcome.map fun (parts, final) => (part.toList ++ parts, final) :=
  outcome_of_next (step_of_advances h)

/-- A run is decided by its first step. -/
theorem outcome_congr {q : Reader} (h : r.step = q.step) : r.outcome = q.outcome := by
  cases hq : q.step with
  | wait final => rw [outcome_of_wait (h.trans hq), outcome_of_wait hq]
  | fail e final => rw [outcome_of_fail (h.trans hq), outcome_of_fail hq]
  | next final part => rw [outcome_of_next (h.trans hq), outcome_of_next hq]

/-- Induction on the steps of a run: its last step waits or fails. -/
theorem run_induction {motive : Reader → Prop}
    (wait : ∀ r final, r.step = .wait final → motive r)
    (fail : ∀ r e final, r.step = .fail e final → motive r)
    (next : ∀ r r' part, r.step = .next r' part → motive r' → motive r)
    (r : Reader) : motive r := by
  induction r using run.induct with
  | case1 r final hstep => exact wait r final hstep
  | case2 r e final hstep => exact fail r e final hstep
  | case3 r r' part hstep _ _ _ ih | case4 r r' part hstep _ _ _ ih => exact next r r' part hstep ih

/-- A run without an error, step by step: it ends where the reader waits. -/
inductive Runs : Reader → List Part → Reader → Prop where
  | wait {r final : Reader} (hwait : r.Waits final) : Runs r [] final
  | next {r r' final : Reader} {part : Option Part} {parts : List Part}
      (hadvances : r.Advances r' part) (hrest : Runs r' parts final) :
      Runs r (part.toList ++ parts) final

/-- An outcome without an error is that of a run of steps. -/
theorem runs_of_outcome {parts : List Part} {final : Reader}
    (h : r.outcome = .ok (parts, final)) : r.Runs parts final := by
  induction r using run_induction generalizing parts with
  | wait r r' hstep =>
    rw [outcome_of_wait hstep] at h
    cases h
    exact .wait (waits_of_step hstep)
  | fail r e r' hstep =>
    rw [outcome_of_fail hstep] at h
    cases h
  | next r r' part hstep ih =>
    rw [outcome_of_next hstep] at h
    cases hrest : r'.outcome with
    | error e =>
      rw [hrest] at h
      cases h
    | ok result =>
      rw [hrest] at h
      cases h
      exact .next (advances_of_step hstep) (ih hrest)

/-! ## Feeding until the first error -/

/-- Feeds the chunks in order until the first error: all completed parts and the reader that is left
over, or the error. -/
def feedAll (r : Reader) : List (List UInt8) → Except Error (List Part × Reader)
  | [] => .ok ([], r)
  | chunk :: rest =>
    match r.feed chunk with
    | (.error e, _) => .error e
    | (.ok parts, r) => (r.feedAll rest).map fun (more, r) => (parts ++ more, r)

/-- Chunks are fed one after the other; the first error ends the feeding. -/
theorem feedAll_cons (r : Reader) (chunk : List UInt8) (rest : List (List UInt8)) :
    r.feedAll (chunk :: rest) =
      ((r.feed chunk).1.map (·, (r.feed chunk).2)).bind fun (parts, r) =>
        (r.feedAll rest).map fun (more, r) => (parts ++ more, r) := by
  rw [feedAll]
  cases r.feed chunk with
  | mk result final => cases result <;> rfl

/-- Chunks are fed without an error if the first one is, and the rest after it. -/
theorem feedAll_cons_eq_ok_iff {final : Reader} {chunk : List UInt8} {rest : List (List UInt8)}
    {parts : List Part} :
    r.feedAll (chunk :: rest) = .ok (parts, final) ↔
      ∃ first next more, r.feed chunk = (.ok first, next) ∧ next.feedAll rest = .ok (more, final) ∧
        parts = first ++ more := by
  rw [feedAll_cons]
  constructor
  · intro h
    cases hfeed : r.feed chunk with
    | mk result next =>
      rw [hfeed] at h
      cases result with
      | error e => cases h
      | ok first =>
        -- a chunk that succeeds is followed by those left
        simp only [Except.map, Except.bind] at h
        cases hrest : next.feedAll rest with
        | error e =>
          rw [hrest] at h
          cases h
        | ok more =>
          rw [hrest] at h
          cases h
          exact ⟨first, next, more.1, rfl, hrest, rfl⟩
  · rintro ⟨first, next, more, hfeed, hrest, rfl⟩
    simp only [hfeed, Except.map, Except.bind, hrest]

end ApiShape.Multipart.Reader
