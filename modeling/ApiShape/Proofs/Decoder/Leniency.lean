import ApiShape.Proofs.Converter.Leniency
import ApiShape.Proofs.Decoder.Rules

/-!
# A strict decoder only refuses

Two decoders whose converters differ in leniency alone decode the same raw values side by side.

* `relaxes_field` — a field is bound alike, or the strict decoder refuses it with an error of the
  client, whatever its kind. Absent values come from defaults, which leniency has no part in.
* `relaxes_decode` — so is a record.
* `FailsAt` — decoding fails at the field in a given place of the order of declaration.
* **`decode_strict_only_refuses`** — a value that the strict decoder returns is the one that the
  lenient decoder returns; and where the lenient decoder blames the client at a field, the strict
  one does so at that field or before it.
-/

namespace ApiShape.Decoder

open ApiShape.Action ApiShape.Time

variable {dec : Decoder} {f : Field}

/-! ## Fields side by side -/

/-- Adapting a stream asks for no converter. -/
theorem relaxes_adapt (dec : Decoder) (name : String) (d : Descriptor) (v : Value) :
    Relaxes (· = ·) (dec.adapt name d v) (dec.adapt name d v) := by
  have hread : ∀ stream, Relaxes (· = ·) (Action.readAll stream) (Action.readAll stream) := by
    intro stream
    refine relaxes_get fun s t hst => (relaxes_modify fun _ _ hst' => hst'.read _).bind ?_
    exact fun _ _ _ => relaxes_pure (congrArg Stream.content (hst.current stream))
  unfold adapt
  -- streams are read alike, and nothing else is asked of the registry
  split
  · exact relaxes_throw _
  · split
    · split
      · exact relaxes_pure rfl
      · exact relaxes_pure rfl
    · split
      · exact relaxes_pure rfl
      · exact relaxes_pure rfl
      · exact relaxes_pure rfl
    · refine (hread _).bind ?_
      rintro bytes _ rfl
      exact relaxes_pure rfl
    · exact relaxes_pure rfl

/-- Defaults do not depend on leniency. -/
theorem relaxes_absent (f : Field) {c c' : Option Converter}
    (hdefault : c.bind (·.default) = c'.bind (·.default)) :
    Relaxes (· = ·) (absent f c) (absent f c') := by
  unfold absent
  rw [hdefault]
  split
  · exact relaxes_ofExcept (Alike.refl _)
  · split
    · exact relaxes_pure rfl
    · split
      · exact relaxes_pure rfl
      · exact relaxes_throw _

/-- A strict converter gives the same value or refuses. -/
theorem relaxes_convert (f : Field) (d : Descriptor) {c c' : Converter} (hc : c.Laxer c')
    (raw : Value) : Relaxes (· = ·) (convert f d c raw) (convert f d c' raw) := by
  unfold convert
  split
  · next text =>
    rcases hc.convert text d.nullable with hsame | ⟨v, reason, hlax, hstrict⟩
    · rw [hsame]
      refine (relaxes_ofExcept (Alike.refl _)).bind ?_
      rintro conversion _ rfl
      split
      · exact relaxes_pure rfl
      · exact relaxes_throw _
    · -- the strict decoder refuses the text that the lenient one takes for its default
      rw [hlax, hstrict]
      exact relaxes_refuse rfl _
  · exact relaxes_throw _

/-- Strictly bound, a scalar field has the same value or is refused. -/
theorem relaxes_scalar (dec : Decoder) (f : Field) (raw : Value) :
    Relaxes (· = ·) (dec.scalar f raw) (dec.scalar f raw) := by
  unfold scalar
  refine (relaxes_converterFor dec.env dec.budget f.type).bind fun i j hij => ?_
  dsimp only
  split
  · exact relaxes_absent f hij.default
  · exact relaxes_convert f f.type hij raw

/-- Strictly bound, an array has the same items or one of them is refused. -/
theorem relaxes_itemValues (dec : Decoder) (f : Field) (item : Descriptor) (raw : List Value) :
    Relaxes (· = ·) (dec.itemValues f item raw) (dec.itemValues f item raw) := by
  unfold itemValues
  split
  · exact relaxes_mapM fun v _ => relaxes_adapt dec f.wireName item v
  · refine (relaxes_converterFor dec.env dec.budget item).bind fun i j hij => ?_
    exact relaxes_mapM fun v _ => relaxes_convert f item hij v

theorem relaxes_sequence (dec : Decoder) (f : Field) (raw : List Value) :
    Relaxes (· = ·) (dec.sequence f raw) (dec.sequence f raw) := by
  unfold sequence
  refine (relaxes_ofExcept (Alike.refl _)).bind ?_
  rintro item _ rfl
  refine (relaxes_itemValues dec f item raw).bind ?_
  rintro values _ rfl
  split
  · exact relaxes_ofExcept (Alike.refl _)
  · exact relaxes_pure rfl
  · exact relaxes_ofExcept (Alike.refl _)

/-- **A field is bound alike, or the strict decoder refuses it.** -/
theorem relaxes_field (dec : Decoder) (f : Field) (raw : Value) :
    Relaxes (· = ·) (dec.field f raw) (dec.field f raw) := by
  unfold field
  split
  · unfold streamed
    split
    · exact relaxes_absent f rfl
    · exact relaxes_adapt dec f.wireName f.type raw.first
  · exact relaxes_sequence dec f raw.items
  · exact relaxes_scalar dec f raw.first

/-! ## Records side by side -/

/-- Strictly decoded, a record is the same or refused. -/
theorem relaxes_decodeRecord (dec : Decoder) (d : Descriptor) (raw : Table String Value) :
    Relaxes (· = ·) (dec.decodeRecord d raw) (dec.decodeRecord d raw) := by
  have hvalues : Relaxes (· = ·) (dec.fieldValues d raw) (dec.fieldValues d raw) := by
    unfold fieldValues
    refine (relaxes_ofExcept (Alike.refl _)).bind ?_
    rintro fields _ rfl
    refine (relaxes_mapM fun f _ => (relaxes_field dec f _).bind ?_).bind ?_
    · rintro v _ rfl
      exact relaxes_pure rfl
    · rintro values _ rfl
      exact relaxes_pure rfl
  have hfailed : ∀ e s, wp (failed d e) (fun _ _ => True) (fun _ _ => False) s := fun e s =>
    wp_of_run_ok (run_failed d e s) trivial
  unfold decodeRecord
  refine (hvalues.onError hfailed).bind ?_
  rintro values _ rfl
  exact relaxes_ofExcept (Alike.refl _)

theorem relaxes_decode (dec : Decoder) (a : TypeExpr) (raw : Table String Value) :
    Relaxes (· = ·) (dec.decode a raw) (dec.decode a raw) := by
  have htarget : Relaxes (· = ·) (dec.target a) (dec.target a) := by
    unfold target described
    refine (relaxes_ofExcept (Alike.refl _)).bind ?_
    rintro d _ rfl
    split
    · exact relaxes_throw _
    · exact relaxes_pure rfl
  unfold decode
  split
  · exact relaxes_pure rfl
  · refine htarget.bind ?_
    rintro d _ rfl
    exact relaxes_decodeRecord dec d raw

/-! ## Where decoding fails -/

/-- A record of the type is decoded up to the field in the given place, where decoding fails. -/
def FailsAt (dec : Decoder) (a : TypeExpr) (raw : Table String Value) (s : State) (place : Nat)
    (e : Error) : Prop :=
  ∃ t fields, describe a = .ok t ∧ dec.env.kind t.nonNull = .object ∧
    dec.env.fields t.nonNull = .ok fields ∧ BindsAt dec fields raw s place (.error e)

/-- Failing at a field is failing. -/
theorem FailsAt.result {a : TypeExpr} {raw : Table String Value} {s : State} {place : Nat}
    {e : Error} (h : FailsAt dec a raw s place e) : ((dec.decode a raw).run s).1 = .error e := by
  obtain ⟨t, fields, ht, hobject, hfields, f, arguments, s₁, s', hf, hbefore, hfails⟩ := h
  have hsplit : fields = fields.take place ++ f :: fields.drop (place + 1) := by
    obtain ⟨hlt, rfl⟩ := List.getElem?_eq_some_iff.1 hf
    rw [← List.drop_eq_getElem_cons hlt, List.take_append_drop]
  have hrules : Decodes dec t.nonNull fields raw s (.error e) (reported t.nonNull e s') :=
    .failed (.firstFailure hsplit hbefore hfails)
  rw [decode_eq ht hobject, (run_decodeRecord_iff hfields).2 hrules]

variable {raw : Table String Value} {fields : List Field} {s s' t t' : State}

/-- A field that the lenient decoder binds is bound alike by the strict one, or refused. -/
theorem Binds.strict {v : Value} (h : Binds dec f (rawOf raw f) s (.ok v) s') (hst : s.Laxer t) :
    (∃ t', s'.Laxer t' ∧ Binds dec f (rawOf raw f) t (.ok v) t') ∨
      ∃ e t', e.isClient = true ∧ Binds dec f (rawOf raw f) t (.error e) t' := by
  have hlax := run_field_iff.2 h
  have hboth := relaxes_field dec f (rawOf raw f) s t hst
  cases hstrict : (dec.field f (rawOf raw f)).run t with
  | mk result t' =>
    cases result with
    | ok w =>
      have hbound := post_of_run hboth hstrict
      obtain ⟨x, s₂, hrun, rfl, hst'⟩ := exists_run_ok hbound
      cases hlax.symm.trans hrun
      exact .inl ⟨t', hst', run_field_iff.1 hstrict⟩
    | error e =>
      rcases fail_of_run hboth hstrict with hclient | hfails
      · exact .inr ⟨e, t', hclient, run_field_iff.1 hstrict⟩
      · obtain ⟨_, _, hrun, -⟩ := exists_run_error hfails
        cases hlax.symm.trans hrun

/-- Where the lenient decoder blames the client at a field, so does the strict one. -/
theorem Binds.strict_error {e : Error} (h : Binds dec f (rawOf raw f) s (.error e) s')
    (hclient : e.isClient = true) (hst : s.Laxer t) :
    ∃ e' t', e'.isClient = true ∧ Binds dec f (rawOf raw f) t (.error e') t' := by
  have hlax := run_field_iff.2 h
  have hboth := relaxes_field dec f (rawOf raw f) s t hst
  cases hstrict : (dec.field f (rawOf raw f)).run t with
  | mk result t' =>
    cases result with
    -- where the strict decoder binds the field, so does the lenient one, which it did not
    | ok w =>
      have hbound := post_of_run hboth hstrict
      obtain ⟨_, _, hrun, -⟩ := exists_run_ok hbound
      cases hlax.symm.trans hrun
    | error e' =>
      refine ⟨e', t', ?_, run_field_iff.1 hstrict⟩
      rcases fail_of_run hboth hstrict with hclient' | hfails
      · exact hclient'
      · obtain ⟨_, _, hrun, rfl⟩ := exists_run_error hfails
        cases hlax.symm.trans hrun
        exact hclient

/-- **Where the lenient decoder blames the client, the strict one has done so by then.** Induction
on the fields: the strict decoder refuses the first of them, or binds it as the lenient one does. -/
theorem BindsAt.strict {e : Error} {place : Nat} (h : BindsAt dec fields raw s place (.error e))
    (hclient : e.isClient = true) (hst : s.Laxer t) :
    ∃ place' ≤ place, ∃ e', e'.isClient = true ∧ BindsAt dec fields raw t place' (.error e') := by
  obtain ⟨f, arguments, s₁, s', hf, hbefore, hfails⟩ := h
  induction fields generalizing place s t arguments with
  | nil => cases hf
  | cons g rest ih =>
    cases place with
    -- the failing field itself
    | zero =>
      cases hf
      cases hbefore
      obtain ⟨e', t', hclient', hstrict⟩ := hfails.strict_error hclient hst
      exact ⟨0, Nat.le_refl 0, e', hclient', bindsAt_zero hstrict⟩
    -- a field before it may be refused by the strict decoder, which then stops there
    | succ place =>
      rw [List.take_succ_cons] at hbefore
      cases hbefore with
      | @cons _ _ argument more _ s₂ _ hg hrest =>
        obtain ⟨-, hbound⟩ := hg
        rcases hbound.strict hst with ⟨t', hst', hstrict⟩ | ⟨e', t', hclient', hstrict⟩
        · obtain ⟨place', hle, e', hclient', hstops⟩ := ih hst' more hf hrest
          exact ⟨place' + 1, Nat.succ_le_succ hle, e', hclient', hstops.succ hstrict⟩
        · exact ⟨0, Nat.zero_le _, e', hclient', bindsAt_zero hstrict⟩

/-! ## The two decoders -/

/-- **A strict decoder only refuses.** Programs that differ in leniency alone start with converters
that do so, and from any such states, for every type and all raw values: what the strict decoder
returns the lenient one returns, and the converters still differ in leniency alone; and if the
lenient decoder fails at a field with an error of the client, the strict one does so at that field
or before it. -/
theorem decode_strict_only_refuses (dec : Decoder) (a : TypeExpr) (raw : Table String Value) :
    (∀ (api : Api) (zones : ZoneDirectory) (registrations : List Registration),
      ((api.withLeniency true).started zones registrations).Laxer
        ((api.withLeniency false).started zones registrations)) ∧
    ∀ lax strict : State, lax.Laxer strict →
      (∀ v strict', (dec.decode a raw).run strict = (.ok v, strict') →
        ∃ lax', (dec.decode a raw).run lax = (.ok v, lax') ∧ lax'.Laxer strict') ∧
      ∀ place e, e.isClient = true → FailsAt dec a raw lax place e →
        ∃ place' ≤ place, ∃ e', e'.isClient = true ∧ FailsAt dec a raw strict place' e' ∧
          ((dec.decode a raw).run strict).1 = .error e' := by
  refine ⟨Api.laxer_started, fun lax strict hst => ⟨?_, ?_⟩⟩
  · intro v strict' hstrict
    have hlax := post_of_run (relaxes_decode dec a raw lax strict hst) hstrict
    obtain ⟨x, lax', hrun, rfl, hst'⟩ := exists_run_ok hlax
    exact ⟨lax', hrun, hst'⟩
  · rintro place e hclient ⟨t, fields, ht, hobject, hfields, hstops⟩
    obtain ⟨place', hle, e', hclient', hstops'⟩ := hstops.strict hclient hst
    have hfails : FailsAt dec a raw strict place' e' := ⟨t, fields, ht, hobject, hfields, hstops'⟩
    exact ⟨place', hle, e', hclient', hfails, hfails.result⟩

open ApiShape.Sample

namespace Sample

/-- Orders have a size, a quantity, which is another name for a whole number, and a colour. -/
def orders : Decoder where
  env := ⟨[
    { ref := classNamed "Size", shape := .plain },
    { ref := classNamed "Quantity", shape := .newtype number },
    color,
    dataclass "Order" [
      { name := "size", type := classExpr "Size" },
      { name := "quantity", type := classExpr "Quantity" },
      { name := "color", type := classExpr "Color" }]]⟩

/-- Sizes are S and L, by default S. -/
def sizes : Registration :=
  .register (classExpr "Size")
    (fun text => if text = "S" ∨ text = "L" then .ok (.text text)
      else .error (.fault (.raised .value "no size")))
    (some (.text "S")) .string

def orderProgram (lenient : Bool) : State :=
  (({ env := orders.env } : Api).withLeniency lenient).started .standard [sizes]

def order (size quantity color : String) : Table String Value :=
  Table.ofList [("size", .text size), ("quantity", .text quantity), ("color", .text color)]

end Sample

open Decoder.Sample

/-- Both decoders return an order with a size, a quantity and a colour of its own. Of an order
without any of them, the lenient decoder refuses the colour, which is its third field, and the
strict one a field before it. -/
theorem decode_strict_only_refuses_order :
    let type : TypeExpr := classExpr "Order"
    let lax := orderProgram true
    let strict := orderProgram false
    let reason : Error := .fault (.unknownMember "PINK" "Color" ["RED"])
    let refusal : Error := .parse "color" (.text "PINK")
      (.described (classType "Color")) reason.message (some reason)
    lax.Laxer strict ∧
      (∃ v, ((orders.decode type (order "L" "2" "red")).run strict).1 = .ok v ∧
        ((orders.decode type (order "L" "2" "red")).run lax).1 = .ok v) ∧
      refusal.isClient = true ∧ FailsAt orders type (order "?" "x" "PINK") lax 2 refusal ∧
      ∃ place ≤ 2, ∃ e, e.isClient = true ∧
        FailsAt orders type (order "?" "x" "PINK") strict place e := by
  intro type lax strict reason refusal
  have hst : lax.Laxer strict :=
    (decode_strict_only_refuses orders type ∅).1 { env := orders.env } .standard [sizes]
  obtain ⟨v, strict', hstrict⟩ : ∃ v strict',
      (orders.decode type (order "L" "2" "red")).run strict = (.ok v, strict') :=
    ⟨_, _, Prod.ext rfl rfl⟩
  have hfails : FailsAt orders type (order "?" "x" "PINK") lax 2 refusal := by
    refine ⟨_, _, rfl, rfl, rfl, ?_⟩
    -- a size that is none becomes the default, and a quantity that is none becomes zero
    refine BindsAt.succ ?_ (run_field_iff.1 (Prod.ext rfl rfl))
    refine BindsAt.succ ?_ (run_field_iff.1 (Prod.ext rfl rfl))
    exact bindsAt_zero (run_field_iff.1 (Prod.ext rfl rfl))
  obtain ⟨lax', hlax, -⟩ :=
    ((decode_strict_only_refuses orders type _).2 lax strict hst).1 v strict' hstrict
  obtain ⟨place, hle, e, hclient, hrefused, -⟩ :=
    ((decode_strict_only_refuses orders type _).2 lax strict hst).2 2 refusal rfl hfails
  exact ⟨hst, ⟨v, by rw [hstrict], by rw [hlax]⟩, rfl, hfails, place, hle, e, hclient, hrefused⟩

end ApiShape.Decoder
