import ApiShape.Decoder.Basic
import ApiShape.Proofs.Multipart.Submission
import Mathlib.Data.List.Forall2

/-!
# The values of a submitted form

The parts of a form are read one by one, and every value is put behind the earlier values of its
name.

* `run_addPart` — the part of an entry adds what was submitted, a file as a stream with a new
  handle.
* `openedPairs` — the values that all entries add, in order; `eq_of_handle` says that no two of them
  share a stream.
* **`items_foldl_addValue`** — under each name stand its values in order, whatever stands between
  them.
* `drain_eq` — draining a reader adds the parts that it gives out, whatever the chunks are.
* **`run_readForm`** — so a submitted form is read as the values that were submitted under each
  name.
-/

namespace ApiShape.Multipart

open ApiShape.Action Text

/-! ## Values by name -/

/-- The values under a name. -/
def itemsAt (values : Table String Value) (name : String) : List Value :=
  ((values.get? name).getD .null).items

/-- Under every name stands a single value or a list of values. -/
def Gathered (values : Table String Value) : Prop :=
  ∀ name v, values.get? name = some v → v.items = [v] ∨ ∃ vs, v = .list vs

variable {values : Table String Value}

theorem gathered_empty : Gathered ∅ := by
  intro name v h
  cases h

/-- **A value is put behind the earlier values of its name**, and other names keep theirs. -/
theorem Gathered.addValue (h : Gathered values) (name : String) {v : Value} (hv : v.items = [v]) :
    Gathered (addValue values name v) ∧
      ∀ k, itemsAt (addValue values name v) k =
        if name = k then itemsAt values k ++ [v] else itemsAt values k := by
  obtain ⟨added, hadded, hshape, hitems⟩ : ∃ added, Multipart.addValue values name v =
      values.set name added ∧ (added.items = [added] ∨ ∃ vs, added = .list vs) ∧
      added.items = itemsAt values name ++ [v] := by
    unfold Multipart.addValue itemsAt
    cases hget : values.get? name with
    | none => exact ⟨_, rfl, .inl hv, hv⟩
    | some earlier =>
      rcases h name earlier hget with hone | ⟨vs, rfl⟩
      · refine ⟨_, rfl, ?_⟩
        -- a single value is no list
        split
        · next heq => cases heq
        · next heq =>
          cases heq
          cases hone
        · next heq =>
          cases heq
          exact ⟨.inr ⟨_, rfl⟩, by rw [Option.getD_some, hone]; rfl⟩
      · exact ⟨_, rfl, .inr ⟨_, rfl⟩, rfl⟩
  rw [hadded]
  refine ⟨fun k w hw => ?_, fun k => ?_⟩
  · rw [Table.get?_set] at hw
    split at hw
    · cases hw
      exact hshape
    · exact h k w hw
  · rw [itemsAt, Table.get?_set]
    split
    · next heq =>
      subst heq
      exact hitems
    · rfl

/-- **Under each name stand its values in order.** -/
theorem items_foldl_addValue {pairs : List (String × Value)}
    (hpairs : ∀ p ∈ pairs, p.2.items = [p.2]) (h : Gathered values) (name : String) :
    itemsAt (pairs.foldl (fun t p => addValue t p.1 p.2) values) name =
      itemsAt values name ++ (pairs.filter (·.1 = name)).map (·.2) := by
  induction pairs generalizing values with
  | nil => rw [List.foldl_nil, List.filter_nil, List.map_nil, List.append_nil]
  | cons p rest ih =>
    obtain ⟨hgathered, hitems⟩ := h.addValue p.1 (hpairs p List.mem_cons_self)
    rw [List.foldl_cons, ih (fun q hq => hpairs q (List.mem_cons_of_mem p hq)) hgathered, hitems,
      List.filter_cons]
    by_cases hname : p.1 = name <;> simp [hname]

/-! ## Opened entries -/

/-- The number of streams in what is submitted. -/
def Submitted.streams : Submitted → Nat
  | text _ => 0
  | file _ => 1

/-- What is received, a file with the given handle. -/
def Submitted.opened (handle : Nat) : Submitted → Value
  | text s => .text s
  | file u =>
    .payload (mediaType u.contentType) (some u.filename)
      { content := u.content, handle := some handle }

theorem Submitted.items_opened (handle : Nat) (x : Submitted) :
    (x.opened handle).items = [x.opened handle] := by
  cases x <;> rfl

/-- The handle of a value with a stream. -/
def handleOf (v : Value) : Option Nat := v.content?.bind (·.2.handle)

/-- The values that the entries add under their names. Handles are given from `handle` on. -/
def openedPairs (handle : Nat) : List Entry → List (String × Value)
  | [] => []
  | e :: rest => (e.name, e.sent.opened handle) :: openedPairs (handle + e.sent.streams) rest

theorem items_of_mem_openedPairs {handle : Nat} {entries : List Entry} :
    ∀ p ∈ openedPairs handle entries, p.2.items = [p.2] := by
  induction entries generalizing handle with
  | nil => exact fun p hp => (List.not_mem_nil hp).elim
  | cons e rest ih =>
    intro p hp
    rcases List.mem_cons.1 hp with rfl | hp
    · exact e.sent.items_opened handle
    · exact ih p hp

/-- A submitted value that can be read once has the handle that it was opened with. -/
theorem handleOf_opened {handle h : Nat} {x : Submitted}
    (hx : handleOf (x.opened handle) = some h) :
    h = handle ∧ x.streams = 1 := by
  cases x with
  | text s => cases hx
  | file u => exact ⟨(Option.some.inj hx).symm, rfl⟩

/-- Later values have later handles. -/
theorem le_of_handle {entries : List Entry} {handle h : Nat} {p : String × Value}
    (hp : p ∈ openedPairs handle entries) (hh : handleOf p.2 = some h) : handle ≤ h := by
  induction entries generalizing handle with
  | nil => cases hp
  | cons e rest ih =>
    rcases List.mem_cons.1 hp with rfl | hp
    · exact (handleOf_opened hh).1.ge
    · exact Nat.le_trans (Nat.le_add_right _ _) (ih hp)

/-- **No two entries share a stream.** -/
theorem eq_of_handle {entries : List Entry} {handle h : Nat} {p q : String × Value}
    (hp : p ∈ openedPairs handle entries) (hq : q ∈ openedPairs handle entries)
    (hph : handleOf p.2 = some h) (hqh : handleOf q.2 = some h) : p = q := by
  induction entries generalizing handle with
  | nil => cases hp
  | cons e rest ih =>
    -- the handles behind an entry are larger than its own
    have hlater : ∀ r : String × Value, handleOf (e.sent.opened handle) = some h →
        r ∈ openedPairs (handle + e.sent.streams) rest → handleOf r.2 = some h → False := by
      intro r hfirst hr hrh
      obtain ⟨rfl, hone⟩ := handleOf_opened hfirst
      have hle := le_of_handle hr hrh
      omega
    rcases List.mem_cons.1 hp with rfl | hp <;> rcases List.mem_cons.1 hq with rfl | hq
    · rfl
    · exact (hlater q hph hq hqh).elim
    · exact (hlater p hqh hp hph).elim
    · exact ih hp hq

/-- What is submitted under a name, in order. -/
def sentUnder (entries : List Entry) (name : String) : List Submitted :=
  (entries.filter (·.name = name)).map (·.sent)

/-- The values under a name are what is submitted under it, with handles. -/
theorem forall₂_openedPairs (handle : Nat) (entries : List Entry) (name : String) :
    List.Forall₂ (fun x v => ∃ h, v = Submitted.opened h x ∧ (name, v) ∈ openedPairs handle entries)
      (sentUnder entries name) (((openedPairs handle entries).filter (·.1 = name)).map (·.2)) := by
  induction entries generalizing handle with
  | nil => exact .nil
  | cons e rest ih =>
    have hrest := (ih (handle + e.sent.streams)).imp fun x v ⟨h, hv, hmem⟩ =>
      (⟨h, hv, List.mem_cons_of_mem (e.name, e.sent.opened handle) hmem⟩ :
        ∃ h, v = Submitted.opened h x ∧ (name, v) ∈ openedPairs handle (e :: rest))
    rw [sentUnder, openedPairs, List.filter_cons, List.filter_cons]
    by_cases hname : e.name = name
    · subst hname
      simp only [decide_true, if_true, List.map_cons]
      exact .cons ⟨handle, rfl, List.mem_cons_self⟩ hrest
    · simp only [hname, decide_false, Bool.false_eq_true, if_false]
      exact hrest

/-! ## Reading a form -/

variable {boundary : String} {s : State}

/-- A part with a name, unless it is a file input without a file, adds its value. -/
theorem run_addPart_of_name {p : Part} {name : String} (hname : p.name = some name)
    (hempty : p.isEmptyUpload = false) (values : Table String Value) (s : State) :
    (addPart values p).run s =
      (Action.ofExcept (p.valueIn s.charsets) >>= fun v =>
        openAll v >>= fun v => pure (addValue values name v)).run
          { s with journal := s.journal.count .multipartParts } := by
  unfold addPart
  rw [hname]
  simp only [hempty, Bool.false_eq_true, if_false]
  rw [run_bind]
  show (get >>= fun t : State => Action.ofExcept (p.valueIn t.charsets) >>= fun v =>
    openAll v >>= fun v => pure (addValue values name v)).run
      { s with journal := s.journal.count .multipartParts } = _
  rw [run_bind]
  rfl

/-- **The part of an entry adds what was submitted.** -/
theorem run_addPart {e : Entry} (h : e.IsFit boundary) (values : Table String Value) (s : State) :
    (addPart values e.outgoing.received).run s =
      (.ok (addValue values e.name (e.sent.opened s.opened)),
        { s with
          journal := s.journal.count .multipartParts
          opened := s.opened + e.sent.streams }) := by
  obtain ⟨hname, hempty, hvalue⟩ := h.received
  have hopen : ∀ s : State, (openAll e.sent.value).run s =
      (.ok (e.sent.opened s.opened), { s with opened := s.opened + e.sent.streams }) := by
    intro s
    cases e.sent <;> rfl
  rw [run_addPart_of_name hname hempty, hvalue, ofExcept_ok_bind, run_bind, hopen]
  rfl

/-- The parts of all entries add the values of all entries. -/
theorem run_foldlM_addPart {entries : List Entry} (hfit : ∀ e ∈ entries, e.IsFit boundary)
    (values : Table String Value) (s : State) :
    ∃ s', ((entries.map fun e => e.outgoing.received).foldlM addPart values).run s =
        (.ok ((openedPairs s.opened entries).foldl (fun t p => addValue t p.1 p.2) values), s') ∧
      s'.registry = s.registry ∧ s'.spent = s.spent := by
  induction entries generalizing values s with
  | nil => exact ⟨s, rfl, rfl, rfl⟩
  | cons e rest ih =>
    obtain ⟨s', hrest, hregistry, hspent⟩ :=
      ih (fun e' he' => hfit e' (List.mem_cons_of_mem e he'))
        (addValue values e.name (e.sent.opened s.opened))
        { s with
          journal := s.journal.count .multipartParts
          opened := s.opened + e.sent.streams }
    refine ⟨s', ?_, hregistry, hspent⟩
    rw [List.map_cons, List.foldlM_cons, run_bind, run_addPart (hfit e List.mem_cons_self)]
    exact hrest

/-- The parts of a chunk are added before the next chunk is read. -/
theorem drain_cons {r next : Reader} {chunk : List UInt8} {first : List Part}
    (h : r.feed chunk = (.ok first, next)) (rest : List (List UInt8))
    (values : Table String Value) :
    r.drain values (chunk :: rest) =
      (first.foldlM addPart values >>= fun values => next.drain values rest) := by
  rw [Reader.drain, h]
  rfl

/-- Draining a reader adds the parts that it gives out for the first chunks, and then those for the
chunks that are left. -/
theorem drain_append {r final : Reader} {chunks : List (List UInt8)} {parts : List Part}
    (h : r.feedAll chunks = .ok (parts, final)) (rest : List (List UInt8))
    (values : Table String Value) :
    r.drain values (chunks ++ rest) =
      (parts.foldlM addPart values >>= fun values => final.drain values rest) := by
  induction chunks generalizing r parts values with
  | nil =>
    cases h
    rw [List.nil_append, List.foldlM_nil, pure_bind]
  | cons chunk chunks ih =>
    obtain ⟨first, next, more, hfeed, hmore, rfl⟩ := Reader.feedAll_cons_eq_ok_iff.1 h
    rw [List.cons_append, drain_cons hfeed, List.foldlM_append, bind_assoc]
    congr 1
    funext v
    exact ih hmore v

/-- Draining a reader adds the parts that it gives out and closes it. -/
theorem drain_eq {r final : Reader} {chunks : List (List UInt8)} {parts : List Part}
    (h : r.feedAll chunks = .ok (parts, final)) (values : Table String Value) :
    r.drain values chunks = (do
      let values ← parts.foldlM addPart values
      Action.ofExcept final.close
      return values) := by
  have hdrain := drain_append h [] values
  rwa [List.append_nil] at hdrain

/-- **A submitted form is read as what was submitted under each name**, however it is cut into
chunks. -/
theorem run_readForm (hboundary : IsBoundary boundary) {entries : List Entry}
    (hfit : ∀ e ∈ entries, e.IsFit boundary) {chunks : List (List UInt8)}
    (hchunks : chunks.flatten = assemble boundary (entries.map Entry.outgoing)) (s : State) :
    ∃ values s', (readForm boundary {} (pure chunks)).run s = (.ok values, s') ∧
      s'.registry = s.registry ∧ s'.spent = s.spent ∧
      ∀ name, itemsAt values name =
        ((openedPairs s.opened entries).filter (·.1 = name)).map (·.2) := by
  have hr := Reader.forBoundary_of_ascii hboundary.isAscii {}
  have hparts : ∀ p ∈ entries.map Entry.outgoing, p.IsSendable boundary := by
    intro p hp
    obtain ⟨e, he, rfl⟩ := List.mem_map.1 hp
    exact (hfit e he).isSendable
  obtain ⟨final, hout, hdone⟩ := outcome_assemble_alone hboundary.isLine hparts
  have hfeed : Reader.feedAll { boundary := Utf8.encode boundary } chunks =
      .ok (entries.map fun e => e.outgoing.received, final) := by
    rw [Reader.feedAll_eq_outcome (Reader.step_of_forBoundary hr), hchunks]
    rw [List.map_map] at hout
    exact hout
  have hclose : final.close = .ok () := by rw [Reader.close, if_pos hdone]
  obtain ⟨s', hrun, hregistry, hspent⟩ := run_foldlM_addPart hfit ∅ s
  refine ⟨_, s', ?_, hregistry, hspent, fun name =>
    items_foldl_addValue items_of_mem_openedPairs gathered_empty name⟩
  have hread : readForm boundary {} (pure chunks) =
      Reader.drain { boundary := Utf8.encode boundary } ∅ chunks := by
    rw [readForm, hr]
    rfl
  rw [hread, drain_eq hfeed, hclose, run_bind, hrun]
  rfl

end ApiShape.Multipart
