import ApiShape.Proofs.Multipart.Assembly

/-!
# The limit on the size of uploads is exact

A reader with a limit refuses the first upload that is larger than the limit and no other part. The
size is checked whenever bytes are moved to the open part, and bytes that could still belong to a
marker are held back, so the check never sees more than the payload.

* **`Advances.limitedTo`**, **`Advances.rejects_limitedTo`** — where a reader completes a part, the
  same reader with a limit completes it as well or refuses it, by the size of the part alone;
* **`Runs.outcome_limitedTo`** — so a run to the end stops at the first part that exceeds the limit;
* **`Runs.within`** — bytes of an open part never exceed the limit while no step fails.

**`feedAll_limited`** puts them together for a body that was assembled.
-/

namespace ApiShape.Multipart

/-- The part is an upload with more bytes than the limit allows. -/
def Part.exceeds (p : Part) (limit : Nat) : Bool := p.isLimited && decide (limit < p.data.length)

namespace Reader

open Text

variable {r r' final : Reader} {part : Option Part} {parts : List Part} {limit : Nat}

/-! ## A limit for a reader -/

/-- The reader with a limit on the size of uploads. -/
def limitedTo (r : Reader) (limit : Nat) : Reader :=
  { r with limits := { r.limits with maxPartSize := some (limit : Int) } }

theorem limitedTo_push (r : Reader) (limit : Nat) (bytes : List UInt8) :
    (r.push bytes).limitedTo limit = (r.limitedTo limit).push bytes := rfl

theorem isTooLarge_of_limit (hlimit : r.limits.maxPartSize = some (limit : Int)) (p : Part)
    (data : List UInt8) : r.isTooLarge p data = { p with data }.exceeds limit := by
  rw [isTooLarge, hlimit, Part.exceeds]
  show (p.isLimited && decide ((limit : Int) < (data.length : Int))) =
    (p.isLimited && decide (limit < data.length))
  rw [decide_eq_decide.2 Int.ofNat_lt]

/-- **A step moves on in the same way** unless it completes a part that exceeds the limit. -/
theorem Advances.limitedTo (h : r.Advances r' part)
    (hfit : ∀ p ∈ part, ¬ p.exceeds limit = true) :
    (r.limitedTo limit).Advances (r'.limitedTo limit) part := by
  cases h with
  | preamble before after hphase hcut => exact .preamble before after hphase hcut
  | finish rest hphase hbuffer => exact .finish rest hphase hbuffer
  | begin rest hphase hbuffer => exact .begin rest hphase hbuffer
  | headers block rest hphase hblock hallowed => exact .headers block rest hphase hblock hallowed
  | body p before after hphase hcut hsize =>
    refine .body p before after hphase hcut ?_
    rw [isTooLarge_of_limit rfl]
    exact hfit _ rfl

/-- **A step that completes a part which exceeds the limit fails instead.** -/
theorem Advances.rejects_limitedTo {p : Part} (h : r.Advances r' (some p))
    (hbig : p.exceeds limit = true) :
    (r.limitedTo limit).Rejects (.multipart .tooLarge p.name) := by
  cases h with
  | body p before after hphase hcut hsize =>
    refine .complete p before after hphase hcut ?_
    rw [isTooLarge_of_limit rfl]
    exact hbig

/-- **A run to the end stops at the first part that exceeds the limit.** Induction on the run: until
then the reader with the limit takes the same steps. -/
theorem Runs.outcome_limitedTo (limit : Nat) (h : r.Runs parts final)
    (hdone : final.isDone = true) :
    (r.limitedTo limit).outcome =
      match parts.find? (·.exceeds limit) with
      | some p => .error (.multipart .tooLarge p.name)
      | none => .ok (parts, final.limitedTo limit) := by
  induction h with
  | wait hwait =>
    -- of the readers that wait only one that is done has read the closing boundary
    cases hwait with
    | done hphase =>
      apply outcome_of_wait
      simp only [step_of_phase, Reader.limitedTo, hphase]
    | preamble hphase | boundary hphase | headers hphase | short _ hphase =>
      simp [isDone, retained, hphase] at hdone
    | growing _ hphase => simp [isDone, movedFirst, moved, hphase] at hdone
  | @next r r' final part parts hadvances hrest ih =>
    by_cases hfit : ∀ p ∈ part, ¬ p.exceeds limit = true
    · have hnone : part.toList.find? (·.exceeds limit) = none :=
        List.find?_eq_none.2 fun p hp => hfit p (Option.mem_toList.1 hp)
      rw [outcome_of_advances (hadvances.limitedTo hfit), ih hdone, List.find?_append, hnone,
        Option.none_or]
      cases parts.find? (·.exceeds limit) <;> rfl
    · obtain ⟨p, hp, hbig⟩ : ∃ p ∈ part, p.exceeds limit = true := by
        simpa only [not_forall, not_not, exists_prop] using hfit
      obtain rfl : part = some p := hp
      obtain ⟨failed, hfail⟩ := step_of_rejects (hadvances.rejects_limitedTo hbig)
      have hfirst : ((some p).toList ++ parts).find? (·.exceeds limit) = some p :=
        List.find?_cons_of_pos hbig
      rw [outcome_of_fail hfail, hfirst]

/-! ## The open part -/

/-- The reader has the limit, and an upload that is open keeps it. -/
structure Within (limit : Nat) (r : Reader) : Prop where
  limits : r.limits.maxPartSize = some (limit : Int)
  size : ∀ p, r.phase = .body p → p.isLimited = true → r.data.length ≤ limit

/-- Data that are not too large keep the limit. -/
theorem length_le_of_not_isTooLarge (hlimit : r.limits.maxPartSize = some (limit : Int)) {p : Part}
    {data : List UInt8} (hsize : ¬ r.isTooLarge p data = true) (hlimited : p.isLimited = true) :
    data.length ≤ limit := by
  rw [isTooLarge_of_limit hlimit, Part.exceeds, Bool.and_eq_true, decide_eq_true_eq] at hsize
  exact Nat.le_of_not_lt fun hbig => hsize ⟨hlimited, hbig⟩

/-- **A step that waits keeps an open upload within the limit.** -/
theorem Waits.within (h : r.Waits r') (hr : r.Within limit) : r'.Within limit := by
  cases h with
  | boundary | headers | short => exact hr
  | preamble hphase hcut => exact ⟨hr.limits, hr.size⟩
  | done hphase => exact ⟨hr.limits, hr.size⟩
  | growing p hphase hcut hsafe hsize =>
    refine ⟨hr.limits, fun q hq hlimited => ?_⟩
    obtain rfl : p = q := Phase.body.inj (hphase.symm.trans hq)
    exact length_le_of_not_isTooLarge hr.limits hsize hlimited

/-- **A step that moves on keeps an open upload within the limit**: it opens parts without data. -/
theorem Advances.within (h : r.Advances r' part) (hr : r.Within limit) : r'.Within limit := by
  cases h with
  | preamble | finish | begin | body => exact ⟨hr.limits, fun q hq => nomatch hq⟩
  | headers block rest hphase hblock hallowed =>
    exact ⟨hr.limits, fun q hq hlimited => Nat.zero_le limit⟩

/-- **A run without an error keeps open uploads within the limit.** -/
theorem Runs.within (h : r.Runs parts final) (hr : r.Within limit) : final.Within limit := by
  induction h with
  | wait hwait => exact hwait.within hr
  | next hadvances hrest ih => exact ih (hadvances.within hr)

/-- Feeding chunks of any body without an error keeps open uploads within the limit. -/
theorem Within.of_feedAll (hr : r.Within limit) (hwait : r.step = .wait r)
    {chunks : List (List UInt8)} (hfeed : r.feedAll chunks = .ok (parts, final)) :
    final.Within limit := by
  rw [feedAll_eq_outcome hwait] at hfeed
  exact (runs_of_outcome hfeed).within ⟨hr.limits, hr.size⟩

/-! ## Assembled bodies -/

/-- **The limit is exact.** For every ASCII boundary without line breaks, all parts that can be sent
with it, every limit and every way to cut the body into chunks, a reader with the limit fails at the
first file or binary part with a payload that is longer, and names it; if there is none it gives out
every part, and is done. While chunks of any body are fed without an error, a file or binary part
that is open never has more bytes than the limit. -/
theorem feedAll_limited {boundary : String} (hascii : IsAscii boundary) (hline : IsLine boundary)
    {parts : List Outgoing} (hparts : ∀ p ∈ parts, p.IsSendable boundary) (limit : Nat) :
    ∃ r, forBoundary boundary { maxPartSize := some (limit : Int) } = .ok r ∧
      (∀ chunks, chunks.flatten = assemble boundary parts →
        (∀ p, (parts.map Outgoing.received).find? (·.exceeds limit) = some p →
          r.feedAll chunks = .error (.multipart .tooLarge p.name)) ∧
        ((parts.map Outgoing.received).find? (·.exceeds limit) = none →
          ∃ final, r.feedAll chunks = .ok (parts.map Outgoing.received, final) ∧
            final.isDone = true ∧ final.close = .ok ())) ∧
      ∀ chunks completed final p, r.feedAll chunks = .ok (completed, final) →
        final.phase = .body p → p.isLimited = true → final.data.length ≤ limit := by
  let unlimited : Reader := { boundary := Utf8.encode boundary }
  have hr : forBoundary boundary { maxPartSize := some (limit : Int) } =
      .ok (unlimited.limitedTo limit) := forBoundary_of_ascii hascii _
  have hwait := step_of_forBoundary hr
  refine ⟨_, hr, fun chunks hchunks => ?_, fun chunks completed final p hfeed => ?_⟩
  · -- the run without a limit is known, so the limited one follows from its parts
    obtain ⟨final, hout, hdone⟩ := outcome_assemble_alone hline hparts
    have hlimited := (runs_of_outcome hout).outcome_limitedTo limit hdone
    rw [limitedTo_push] at hlimited
    rw [feedAll_eq_outcome hwait, hchunks]
    constructor
    · intro p hfind
      rw [hfind] at hlimited
      exact hlimited
    · intro hfind
      rw [hfind] at hlimited
      have hclosed : (final.limitedTo limit).isDone = true := hdone
      exact ⟨final.limitedTo limit, hlimited, hclosed, by rw [close, if_pos hclosed]⟩
  · -- at the start no part is open, and each step keeps within the limit
    have hnew : (unlimited.limitedTo limit).Within limit := by
      refine ⟨rfl, fun q hq => ?_⟩
      cases hq
    exact (hnew.of_feedAll hwait hfeed).size p

end Reader

namespace Sample

/-- A text that is longer than the uploads. -/
def note : Outgoing := ⟨[("Content-Disposition", "form-data; name=\"note\"")], [97, 98, 99, 100]⟩

/-- A file of two bytes, the last of which could begin a marker. -/
def icon : Outgoing where
  headers := [("Content-Disposition", "form-data; name=\"icon\"; filename=\"i.bin\"")]
  payload := [120, 13]

/-- A binary part of three bytes, all of which could belong to a marker. -/
def blob : Outgoing where
  headers := [("Content-Disposition", "form-data; name=\"blob\""), ("Content-Type", "image/png")]
  payload := [13, 10, 45]

end Sample

namespace Reader

open Multipart.Sample

/-- A text, a file and a binary part that are read byte by byte: the binary part has one byte too
many for a limit of two, and none for a limit of three. -/
theorem feedAll_limited_blob :
    let parts := [note, icon, blob]
    let chunks := (assemble "b" parts).map fun b => [b]
    IsAscii "b" ∧ IsLine "b" ∧ (∀ p ∈ parts, p.IsSendable "b") ∧
      (∃ r, forBoundary "b" { maxPartSize := some 2 } = .ok r ∧
        r.feedAll chunks = .error (.multipart .tooLarge (some "blob"))) ∧
      ∃ r final, forBoundary "b" { maxPartSize := some 3 } = .ok r ∧
        r.feedAll chunks = .ok (parts.map Outgoing.received, final) ∧
        final.isDone = true ∧ final.close = .ok () := by
  intro parts chunks
  have hascii : IsAscii "b" := by decide +kernel
  have hline : IsLine "b" := by decide +kernel
  have hparts : ∀ p ∈ parts, p.IsSendable "b" := by decide +kernel
  have hchunks : chunks.flatten = assemble "b" parts := List.flatMap_singleton' _
  have htwo : ((parts.map Outgoing.received).find? (·.exceeds 2)).map (·.name) =
      some (some "blob") := by decide +kernel
  have hthree : ((parts.map Outgoing.received).find? (·.exceeds 3)).isNone = true := by
    decide +kernel
  obtain ⟨r₂, hr₂, hread₂, -⟩ := feedAll_limited hascii hline hparts 2
  obtain ⟨r₃, hr₃, hread₃, -⟩ := feedAll_limited hascii hline hparts 3
  refine ⟨hascii, hline, hparts, ⟨r₂, hr₂, ?_⟩, r₃, ?_⟩
  · obtain ⟨p, hfind, hname⟩ := Option.map_eq_some_iff.1 htwo
    rw [(hread₂ chunks hchunks).1 p hfind, hname]
  · obtain ⟨final, hfeed, hdone, hclose⟩ :=
      (hread₃ chunks hchunks).2 (Option.isNone_iff_eq_none.1 hthree)
    exact ⟨final, hr₃, hfeed, hdone, hclose⟩

end Reader

end ApiShape.Multipart
