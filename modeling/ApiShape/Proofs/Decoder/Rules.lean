import ApiShape.Decoder.Basic
import ApiShape.Proofs.Action
import ApiShape.Proofs.Sample

/-!
# Decoding follows the rules for fields

The rules say what a field is bound to, one relation for each kind of field (`Binds`), and `Decodes`
says what becomes of a record: its constructor gets the values of all fields, or the first field
that cannot be bound decides.

* **`run_field_iff`** — a field is bound as the rules say, from the lemmas about each kind of field;
* `run_fieldValues_iff` — so are all fields in order, up to the first that fails;
* **`run_decodeRecord_iff`** — a record is decoded as the rules say;
* `fieldValues_congr` — raw values under other names than those of the fields do not matter.

The rules lead from state to state, since the converters of enumerations and wrappers are made when
they are first asked for, and streams are read.
-/

namespace ApiShape.Decoder

open ApiShape.Action

variable {dec : Decoder} {f : Field} {d : Descriptor} {s s' : State}

/-! ## The rules for fields -/

/-- The rules for a field without a raw value: its default, which a factory may fail to make, else
null if it admits that, else the fallback, else an error with its name on the wire. -/
inductive Absent (f : Field) (fallback : Option Value) : Except Error Value → Prop
  | declared {default : Default} {result : Except Error Value} (h : f.default = some default)
      (hvalue : default.value = result) : Absent f fallback result
  | null (h : f.default = none) (hnull : f.type.nullable = true) : Absent f fallback (.ok .null)
  | fallback {v : Value} (h : f.default = none) (hnull : f.type.nullable = false)
      (hv : fallback = some v) : Absent f fallback (.ok v)
  | required (h : f.default = none) (hnull : f.type.nullable = false) (hv : fallback = none) :
      Absent f fallback (.error (.requiredField f.wireName))

/-- The rules for a raw value that is converted to the type `d`: a text is what the converter makes
of it where null is admitted as in `d`, and nothing but a text is converted. -/
inductive Converts (f : Field) (d : Descriptor) (c : Converter) : Value → Except Error Value → Prop
  | value {text : String} {v : Value} (h : c.convert text d.nullable = .ok (.value v)) :
      Converts f d c (.text text) (.ok v)
  | unfit {text : String} {reason : Error}
      (h : c.convert text d.nullable = .ok (.failure reason)) :
      Converts f d c (.text text)
        (.error (.parse f.wireName (.text text) (.described d) reason.message (some reason)))
  | raised {text : String} {e : Error} (h : c.convert text d.nullable = .error e) :
      Converts f d c (.text text) (.error e)
  | notText {raw : Value} (h : ∀ text, raw ≠ .text text) :
      Converts f d c raw
        (.error (.parse f.wireName raw (.described d) "expected a text value" none))

/-- The rules for a field that is neither stream nor array. -/
inductive BindsScalar (dec : Decoder) (f : Field) (raw : Value) (s : State) :
    Except Error Value → State → Prop
  | unresolved {e : Error} {s' : State}
      (hconverter : (dec.env.converterFor dec.budget f.type).run s = (.error e, s')) :
      BindsScalar dec f raw s (.error e) s'
  | absent {i : Installed} {result : Except Error Value} {s' : State}
      (hconverter : (dec.env.converterFor dec.budget f.type).run s = (.ok i, s'))
      (hraw : raw = .null) (h : Absent f i.converter.default result) :
      BindsScalar dec f raw s result s'
  | converted {i : Installed} {result : Except Error Value} {s' : State}
      (hconverter : (dec.env.converterFor dec.budget f.type).run s = (.ok i, s'))
      (hraw : raw ≠ .null) (h : Converts f f.type i.converter raw result) :
      BindsScalar dec f raw s result s'

/-- The rules for a stream field. No converter takes part. -/
inductive BindsStream (dec : Decoder) (f : Field) (raw : Value) (s : State) :
    Except Error Value → State → Prop
  | absent {result : Except Error Value} (hraw : raw = .null) (h : Absent f none result) :
      BindsStream dec f raw s result s
  | adapted {result : Except Error Value} {s' : State} (hraw : raw ≠ .null)
      (h : (dec.adapt f.wireName f.type raw).run s = (result, s')) :
      BindsStream dec f raw s result s'

/-- The rules for the items of an array field, all of which are bound in order. -/
inductive BindsItems (dec : Decoder) (f : Field) (item : Descriptor) (raw : List Value)
    (s : State) : Except Error (List Value) → State → Prop
  | streams {result : Except Error (List Value)} {s' : State} (hkind : dec.env.kind item = .stream)
      (h : InOrder (fun v s result s' => (dec.adapt f.wireName item v).run s = (result, s')) raw s
        result s') :
      BindsItems dec f item raw s result s'
  | unresolved {e : Error} {s' : State} (hkind : dec.env.kind item ≠ .stream)
      (hconverter : (dec.env.converterFor dec.budget item).run s = (.error e, s')) :
      BindsItems dec f item raw s (.error e) s'
  | converted {i : Installed} {result : Except Error (List Value)} {s₁ s' : State}
      (hkind : dec.env.kind item ≠ .stream)
      (hconverter : (dec.env.converterFor dec.budget item).run s = (.ok i, s₁))
      (h : InOrder (fun v s result s' => s' = s ∧ Converts f item i.converter v result) raw s₁
        result s') :
      BindsItems dec f item raw s result s'

def emptyContainer : Container → Value
  | .list => .list []
  | .tuple => .tuple []
  | .set => .set false []
  | .frozenset => .set true []

/-- The rules for the container of an array field's items. -/
inductive Collects (f : Field) : List Value → Except Error Value → Prop
  | declared {default : Default} {result : Except Error Value} (h : f.default = some default)
      (hvalue : default.value = result) : Collects f [] result
  | null (h : f.default = none) (hnull : f.type.nullable = true) : Collects f [] (.ok .null)
  | empty (h : f.default = none) (hnull : f.type.nullable = false) :
      Collects f [] (.ok (emptyContainer (containerOf f.type)))
  | items {values : List Value} (h : values ≠ []) :
      Collects f values (Value.collect (containerOf f.type) values)

/-- The rules for an array field. -/
inductive BindsArray (dec : Decoder) (f : Field) (raw : List Value) (s : State) :
    Except Error Value → State → Prop
  | failed {item : Descriptor} {e : Error} {s' : State}
      (hitem : dec.env.item f.type.nonNull = .ok item)
      (hitems : BindsItems dec f item raw s (.error e) s') : BindsArray dec f raw s (.error e) s'
  | collected {item : Descriptor} {values : List Value} {result : Except Error Value} {s' : State}
      (hitem : dec.env.item f.type.nonNull = .ok item)
      (hitems : BindsItems dec f item raw s (.ok values) s') (h : Collects f values result) :
      BindsArray dec f raw s result s'

/-- The rules for a field: an array binds all of its raw values, any other field the first. -/
inductive Binds (dec : Decoder) (f : Field) (raw : Value) (s : State) :
    Except Error Value → State → Prop
  | stream {result : Except Error Value} {s' : State} (hkind : dec.env.kind f.type = .stream)
      (h : BindsStream dec f raw.first s result s') : Binds dec f raw s result s'
  | array {result : Except Error Value} {s' : State} (hkind : dec.env.kind f.type = .array)
      (h : BindsArray dec f raw.items s result s') : Binds dec f raw s result s'
  | scalar {result : Except Error Value} {s' : State} (hstream : dec.env.kind f.type ≠ .stream)
      (harray : dec.env.kind f.type ≠ .array) (h : BindsScalar dec f raw.first s result s') :
      Binds dec f raw s result s'

/-- The type that the texts of a field are converted to, its own or that of its items. No text is
converted to a stream. -/
def textType? (env : Environment) (f : Field) : Option Descriptor :=
  match env.kind f.type with
  | .stream => none
  | .array =>
    match env.item f.type.nonNull with
    | .ok item => if env.kind item = .stream then none else some item
    | .error _ => none
  | _ => some f.type

/-- The texts of a field that is neither a stream nor an array are converted to its type. -/
theorem textType?_of_scalar {env : Environment} (hstream : env.kind f.type ≠ .stream)
    (harray : env.kind f.type ≠ .array) : textType? env f = some f.type := by
  unfold textType?
  split
  · next heq => exact absurd heq hstream
  · next heq => exact absurd heq harray
  · rfl

/-- The texts of an array are converted to its item type, unless its items are streams. -/
theorem textType?_of_array {env : Environment} {item : Descriptor}
    (harray : env.kind f.type = .array) (hitem : env.item f.type.nonNull = .ok item)
    (hstream : env.kind item ≠ .stream) : textType? env f = some item := by
  simp only [textType?, harray, hitem, if_neg hstream]

/-! ## The decoder follows the rules -/

/-- What an absent value is bound to needs no state. -/
theorem run_absent_iff {c : Option Converter} {result : Except Error Value} :
    (absent f c).run s = (result, s') ↔ s' = s ∧ Absent f (c.bind (·.default)) result := by
  unfold absent
  constructor
  · -- a default, null, the fallback, in this order
    intro hrun
    split at hrun
    · next default hdefault =>
      obtain ⟨hvalue, rfl⟩ := run_ofExcept_iff.1 hrun
      exact ⟨rfl, .declared hdefault hvalue⟩
    · next hdefault =>
      split at hrun
      · next hnull =>
        cases hrun
        exact ⟨rfl, .null hdefault hnull⟩
      · next hnull =>
        have hnull : f.type.nullable = false := by simpa using hnull
        split at hrun
        · next v hv =>
          cases hrun
          exact ⟨rfl, .fallback hdefault hnull hv⟩
        · next hv =>
          cases hrun
          exact ⟨rfl, .required hdefault hnull hv⟩
  · rintro ⟨rfl, h⟩
    -- each rule is one way through the branches
    cases h with
    | declared h hvalue =>
      rw [h]
      exact run_ofExcept_iff.2 ⟨hvalue, rfl⟩
    | null h hnull =>
      rw [h, hnull]
      rfl
    | fallback h hnull hv =>
      rw [h, hnull, hv]
      rfl
    | required h hnull hv =>
      rw [h, hnull, hv]
      rfl

/-- Converting a raw value needs no state. -/
theorem run_convert_iff {c : Converter} {raw : Value} {result : Except Error Value} :
    (convert f d c raw).run s = (result, s') ↔ s' = s ∧ Converts f d c raw result := by
  unfold convert
  constructor
  · -- a text is converted, all else is refused
    intro hrun
    split at hrun
    · next text =>
      rcases run_bind_iff.1 hrun with ⟨conversion, s₁, hconvert, hrun⟩ | ⟨e, hconvert, rfl⟩
      · obtain ⟨h, rfl⟩ := run_ofExcept_iff.1 hconvert
        cases conversion with
        | value v =>
          cases hrun
          exact ⟨rfl, .value h⟩
        | failure reason =>
          cases hrun
          exact ⟨rfl, .unfit h⟩
      · obtain ⟨h, rfl⟩ := run_ofExcept_iff.1 hconvert
        exact ⟨rfl, .raised h⟩
    · next htext =>
      cases hrun
      exact ⟨rfl, .notText htext⟩
  · rintro ⟨rfl, h⟩
    -- each rule is one way through the branches
    cases h with
    | value h => exact run_bind_iff.2 (.inl ⟨_, _, run_ofExcept_iff.2 ⟨h, rfl⟩, rfl⟩)
    | unfit h => exact run_bind_iff.2 (.inl ⟨_, _, run_ofExcept_iff.2 ⟨h, rfl⟩, rfl⟩)
    | raised h => exact run_bind_iff.2 (.inr ⟨_, run_ofExcept_iff.2 ⟨h, rfl⟩, rfl⟩)
    | notText h =>
      split
      · next text => exact absurd rfl (h text)
      · rfl

/-- A scalar field is bound by the rules for scalars, and in no other way. -/
theorem run_scalar_iff {raw : Value} {result : Except Error Value} :
    (dec.scalar f raw).run s = (result, s') ↔ BindsScalar dec f raw s result s' := by
  unfold scalar
  -- the converter is asked for even where the field has no raw value
  rw [run_bind_iff]
  constructor
  · rintro (⟨i, s₁, hconverter, hrun⟩ | ⟨e, hconverter, rfl⟩)
    · split at hrun
      · obtain ⟨rfl, h⟩ := run_absent_iff.1 hrun
        exact .absent hconverter rfl h
      · next hraw =>
        obtain ⟨rfl, h⟩ := run_convert_iff.1 hrun
        exact .converted hconverter hraw h
    · exact .unresolved hconverter
  · intro h
    cases h with
    | unresolved hconverter => exact .inr ⟨_, hconverter, rfl⟩
    | absent hconverter hraw h =>
      subst hraw
      exact .inl ⟨_, s', hconverter, run_absent_iff.2 ⟨rfl, h⟩⟩
    | converted hconverter hraw h =>
      refine .inl ⟨_, s', hconverter, ?_⟩
      split
      · exact absurd rfl hraw
      · exact run_convert_iff.2 ⟨rfl, h⟩

/-- A stream field is bound by the rules for streams, and in no other way. -/
theorem run_streamed_iff {raw : Value} {result : Except Error Value} :
    (dec.streamed f raw).run s = (result, s') ↔ BindsStream dec f raw s result s' := by
  unfold streamed
  constructor
  · intro hrun
    split at hrun
    · obtain ⟨rfl, h⟩ := run_absent_iff.1 hrun
      exact .absent rfl h
    · next hraw => exact .adapted hraw hrun
  · intro h
    cases h with
    | absent hraw h =>
      subst hraw
      exact run_absent_iff.2 ⟨rfl, h⟩
    | adapted hraw h =>
      split
      · exact absurd rfl hraw
      · exact h

/-- The items of an array are bound by the rules for items, and in no other way. -/
theorem run_itemValues_iff {item : Descriptor} {raw : List Value}
    {result : Except Error (List Value)} :
    (dec.itemValues f item raw).run s = (result, s') ↔ BindsItems dec f item raw s result s' := by
  unfold itemValues
  -- streams are adapted one by one, other items share one converter
  -- the items are streams
  by_cases hkind : dec.env.kind item = .stream
  · rw [if_pos hkind, run_mapM_iff fun _ _ _ _ _ => Iff.rfl]
    constructor
    · exact .streams hkind
    · intro h
      cases h with
      | streams _ h => exact h
      | unresolved hne | converted hne => exact absurd hkind hne
  · -- the items are texts, once their converter is there
    rw [if_neg hkind, run_bind_iff]
    constructor
    · rintro (⟨i, s₁, hconverter, hrun⟩ | ⟨e, hconverter, rfl⟩)
      · exact .converted hkind hconverter
          ((run_mapM_iff (fun _ _ _ _ _ => run_convert_iff) _ _ _).1 hrun)
      · exact .unresolved hkind hconverter
    · intro h
      cases h with
      | streams hstream => exact absurd hstream hkind
      | unresolved _ hconverter => exact .inr ⟨_, hconverter, rfl⟩
      | converted _ hconverter h =>
        exact .inl ⟨_, _, hconverter,
          (run_mapM_iff (fun _ _ _ _ _ => run_convert_iff) _ _ _).2 h⟩

theorem collect_nil (c : Container) : Value.collect c [] = .ok (emptyContainer c) := by
  cases c <;> rfl

/-- An array field is bound by the rules for arrays, and in no other way. -/
theorem run_sequence_iff (hkind : dec.env.kind f.type = .array) {raw : List Value}
    {result : Except Error Value} :
    (dec.sequence f raw).run s = (result, s') ↔ BindsArray dec f raw s result s' := by
  obtain ⟨item, hitem⟩ := Environment.exists_item hkind
  unfold sequence
  rw [hitem]
  show (dec.itemValues f item raw >>= _).run s = _ ↔ _
  rw [run_bind_iff]
  constructor
  · rintro (⟨bound, s₁, hvalues, hrun⟩ | ⟨e, hvalues, rfl⟩)
    · have hitems := run_itemValues_iff.1 hvalues
      cases bound with
      | cons v rest =>
        obtain ⟨h, rfl⟩ := run_ofExcept_iff.1 hrun
        exact .collected hitem hitems (h ▸ .items (List.cons_ne_nil v rest))
      | nil =>
        -- without items: the default, else null where it is admitted, else the empty container
        cases hdefault : f.default with
        | some default =>
          rw [hdefault] at hrun
          obtain ⟨hvalue, rfl⟩ := run_ofExcept_iff.1 hrun
          exact .collected hitem hitems (.declared hdefault hvalue)
        | none =>
          cases hnull : f.type.nullable with
          | true =>
            rw [hdefault, hnull] at hrun
            cases hrun
            exact .collected hitem hitems (.null hdefault hnull)
          | false =>
            rw [hdefault, hnull] at hrun
            obtain ⟨h, rfl⟩ := run_ofExcept_iff.1 hrun
            rw [collect_nil] at h
            exact .collected hitem hitems (h ▸ .empty hdefault hnull)
    · -- an item has failed
      exact .failed hitem (run_itemValues_iff.1 hvalues)
  · intro h
    cases h with
    | failed hitem' hitems =>
      obtain rfl := Except.ok.inj (hitem.symm.trans hitem')
      exact .inr ⟨_, run_itemValues_iff.2 hitems, rfl⟩
    | collected hitem' hitems h =>
      obtain rfl := Except.ok.inj (hitem.symm.trans hitem')
      refine .inl ⟨_, _, run_itemValues_iff.2 hitems, ?_⟩
      cases h with
      | declared h hvalue =>
        rw [h]
        exact run_ofExcept_iff.2 ⟨hvalue, rfl⟩
      | null h hnull =>
        rw [h, hnull]
        rfl
      | empty h hnull =>
        rw [h, hnull, ← collect_nil]
        rfl
      | items hne =>
        split
        · exact absurd rfl hne
        · exact absurd rfl hne
        · rfl

/-- A field is bound by the rules for fields, and in no other way. -/
theorem run_field_iff {raw : Value} {result : Except Error Value} :
    (dec.field f raw).run s = (result, s') ↔ Binds dec f raw s result s' := by
  unfold field
  constructor
  · intro hrun
    split at hrun
    · next hkind => exact .stream hkind (run_streamed_iff.1 hrun)
    · next hkind => exact .array hkind ((run_sequence_iff hkind).1 hrun)
    · next hstream harray => exact .scalar hstream harray (run_scalar_iff.1 hrun)
  · intro h
    cases h with
    | stream hkind h => rw [hkind]; exact run_streamed_iff.2 h
    | array hkind h => rw [hkind]; exact (run_sequence_iff hkind).2 h
    | scalar hstream harray h =>
      split
      · next hkind => exact absurd hkind hstream
      · next hkind => exact absurd hkind harray
      · exact run_scalar_iff.2 h

/-! ## Records -/

/-- The raw value of a field: what stands under its name on the wire. -/
def rawOf (raw : Table String Value) (f : Field) : Value := (raw.get? f.wireName).getD .null

/-- The rules for an argument of the constructor: the field's key with the value that the field is
bound to. -/
def BindsArgument (dec : Decoder) (raw : Table String Value) (f : Field) (s : State) :
    Except Error (String × Value) → State → Prop
  | .ok (key, v), s' => key = f.key ∧ Binds dec f (rawOf raw f) s (.ok v) s'
  | .error e, s' => Binds dec f (rawOf raw f) s (.error e) s'

/-- What the field in a place of the order of declaration is bound to, after the fields before
it. -/
def BindsAt (dec : Decoder) (fields : List Field) (raw : Table String Value) (s : State)
    (place : Nat) (result : Except Error Value) : Prop :=
  ∃ f arguments s₁ s', fields[place]? = some f ∧
    Each (BindsArgument dec raw) (fields.take place) s arguments s₁ ∧
    Binds dec f (rawOf raw f) s₁ result s'

/-- The first field is bound in the state that decoding starts from. -/
theorem bindsAt_zero {raw : Table String Value} {fields : List Field} {result : Except Error Value}
    (h : Binds dec f (rawOf raw f) s result s') : BindsAt dec (f :: fields) raw s 0 result :=
  ⟨f, [], s, s', rfl, .nil s, h⟩

/-- A later field is bound in the state that the fields before it leave. -/
theorem BindsAt.succ {raw : Table String Value} {fields : List Field} {place : Nat}
    {result : Except Error Value} {v : Value} (h : BindsAt dec fields raw s' place result)
    (hbound : Binds dec f (rawOf raw f) s (.ok v) s') :
    BindsAt dec (f :: fields) raw s (place + 1) result := by
  obtain ⟨g, arguments, s₁, s₂, hg, hbefore, hbinds⟩ := h
  exact ⟨g, (f.key, v) :: arguments, s₁, s₂, hg, .cons ⟨rfl, hbound⟩ hbefore, hbinds⟩

/-- The state after a failure has been counted and reported, which errors of the client are. -/
def reported (d : Descriptor) (e : Error) (s : State) : State :=
  if e.isClient then
    { s with journal := (s.journal.count .decodeFailures).report (.decodingFailed d e.message) }
  else s

/-- The rules for a record. The fields are bound in order. If all of them are, the constructor is
called with their values by its keys, and what it answers is the result. Else the result is the
error of the first field that cannot be bound, and no constructor takes part. -/
inductive Decodes (dec : Decoder) (d : Descriptor) (fields : List Field)
    (raw : Table String Value) (s : State) : Except Error Value → State → Prop
  | constructed {arguments : List (String × Value)} {s' : State}
      (h : InOrder (BindsArgument dec raw) fields s (.ok arguments) s') :
      Decodes dec d fields raw s (dec.env.construct d.origin (Table.ofList arguments).entries) s'
  | failed {e : Error} {s' : State}
      (h : InOrder (BindsArgument dec raw) fields s (.error e) s') :
      Decodes dec d fields raw s (.error e) (reported d e s')

/-- Binds a field to an argument of the constructor. -/
def argument (dec : Decoder) (raw : Table String Value) (f : Field) : Action (String × Value) := do
  return (f.key, ← dec.field f (rawOf raw f))

/-- The values of a record are those of its fields, visited in order and put into a table. -/
theorem fieldValues_eq {fields : List Field} (hfields : dec.env.fields d = .ok fields)
    (raw : Table String Value) :
    dec.fieldValues d raw = do return Table.ofList (← fields.mapM (dec.argument raw)) := by
  rw [fieldValues, hfields]
  rfl

/-- An argument is the value of a field under the name of the field. -/
theorem run_argument_iff {raw : Table String Value} {result : Except Error (String × Value)} :
    (dec.argument raw f).run s = (result, s') ↔ BindsArgument dec raw f s result s' := by
  rw [argument, run_bind_iff]
  constructor
  · rintro (⟨v, s₁, hfield, hrun⟩ | ⟨e, hfield, rfl⟩)
    · cases hrun
      exact ⟨rfl, run_field_iff.1 hfield⟩
    · exact run_field_iff.1 hfield
  · intro h
    cases result with
    | ok argument =>
      obtain ⟨hkey, h⟩ := h
      refine .inl ⟨argument.2, s', run_field_iff.2 h, ?_⟩
      rw [← hkey]
      rfl
    | error e => exact .inr ⟨e, run_field_iff.2 h, rfl⟩

/-- The values of a record are those of all its fields, or the error of the first field that
fails. -/
theorem run_fieldValues_iff {fields : List Field} (hfields : dec.env.fields d = .ok fields)
    {raw : Table String Value} {result : Except Error (Table String Value)} :
    (dec.fieldValues d raw).run s = (result, s') ↔
      ∃ arguments, InOrder (BindsArgument dec raw) fields s arguments s' ∧
        result = arguments.map Table.ofList := by
  have hlist : ∀ s result s', (fields.mapM (dec.argument raw)).run s = (result, s') ↔
      InOrder (BindsArgument dec raw) fields s result s' :=
    run_mapM_iff fun _ _ _ _ _ => run_argument_iff
  rw [fieldValues_eq hfields, run_bind_iff]
  constructor
  · rintro (⟨arguments, s₁, harguments, hrun⟩ | ⟨e, harguments, rfl⟩)
    · cases hrun
      exact ⟨.ok arguments, (hlist _ _ _).1 harguments, rfl⟩
    · exact ⟨.error e, (hlist _ _ _).1 harguments, rfl⟩
  · rintro ⟨arguments, h, rfl⟩
    cases arguments with
    | ok arguments => exact .inl ⟨arguments, s', (hlist _ _ _).2 h, rfl⟩
    | error e => exact .inr ⟨e, (hlist _ _ _).2 h, rfl⟩

/-- A failed decoding is counted and reported, and changes nothing else. -/
theorem run_failed (d : Descriptor) (e : Error) (s : State) :
    (failed d e).run s = (.ok (), reported d e s) := by
  unfold failed reported
  split <;> rfl

/-- A record is decoded by the rules for records, and in no other way. -/
theorem run_decodeRecord_iff {fields : List Field} (hfields : dec.env.fields d = .ok fields)
    {raw : Table String Value} {result : Except Error Value} :
    (dec.decodeRecord d raw).run s = (result, s') ↔ Decodes dec d fields raw s result s' := by
  unfold decodeRecord
  -- failures of fields are reported, those of the constructor are not
  rw [run_bind, run_onError (reported d) (run_failed d)]
  constructor
  · intro hrun
    cases hvalues : (dec.fieldValues d raw).run s with
    | mk values s₁ =>
      obtain ⟨arguments, harguments, rfl⟩ := (run_fieldValues_iff hfields).1 hvalues
      rw [hvalues] at hrun
      cases arguments with
      | ok arguments =>
        obtain ⟨rfl, rfl⟩ := run_ofExcept_iff.1 hrun
        exact .constructed harguments
      | error e =>
        cases hrun
        exact .failed harguments
  · intro h
    cases h with
    | constructed h =>
      rw [(run_fieldValues_iff hfields).2 ⟨_, h, rfl⟩]
      rfl
    | failed h =>
      rw [(run_fieldValues_iff hfields).2 ⟨_, h, rfl⟩]
      rfl

/-! ## Decoding -/

variable {a : TypeExpr} {t : Descriptor}

theorem ne_null_of_object (ht : describe a = .ok t) (hobject : dec.env.kind t.nonNull = .object) :
    a ≠ .null := by
  rintro rfl
  cases ht
  cases hobject

/-- What is decoded is the described type, nullability stripped. -/
theorem target_eq (ht : describe a = .ok t) (hobject : dec.env.kind t.nonNull = .object) :
    dec.target a = pure t.nonNull := by
  have hdescribed : described a = pure t.nonNull := by
    rw [described, ht]
    rfl
  have hkind : ¬ dec.env.kind t.nonNull ≠ .object := not_not_intro hobject
  rw [target, hdescribed, pure_bind, if_neg hkind]

/-- A type expression that describes a record is decoded as that record. -/
theorem decode_eq (ht : describe a = .ok t) (hobject : dec.env.kind t.nonNull = .object)
    (raw : Table String Value) : dec.decode a raw = dec.decodeRecord t.nonNull raw := by
  rw [decode, if_neg (ne_null_of_object ht hobject), target_eq ht hobject]
  rfl

/-- Only what stands under the names of the fields matters. -/
theorem fieldValues_congr {fields : List Field} (hfields : dec.env.fields d = .ok fields)
    {raw raw' : Table String Value}
    (hsame : ∀ f ∈ fields, raw.get? f.wireName = raw'.get? f.wireName) :
    dec.fieldValues d raw = dec.fieldValues d raw' := by
  have hlist : fields.mapM (dec.argument raw) = fields.mapM (dec.argument raw') :=
    mapM_congr fun f hf => by rw [argument, argument, rawOf, rawOf, hsame f hf]
  rw [fieldValues_eq hfields, fieldValues_eq hfields, hlist]

/-- The arguments of the constructor are in the order of the fields, under their keys. -/
theorem keys_of_each {fields : List Field} {raw : Table String Value}
    {arguments : List (String × Value)}
    (h : Each (BindsArgument dec raw) fields s arguments s') :
    arguments.map (·.1) = fields.map (·.key) := by
  induction h with
  | nil => rfl
  | cons hx _ ih => rw [List.map_cons, List.map_cons, hx.1, ih]

open ApiShape.Sample

namespace Sample

/-- Searches for a text in colours: the colours in order, a page, an owner if there is one, and the
text itself, which is called `q` on the wire. -/
def searches : Decoder where
  env := ⟨[
    { ref := classNamed "Color"
      shape := .enumeration (.ofList [("RED", .text "red"), ("BLUE", .text "blue")]) },
    dataclass "Search" [
      { name := "colors", type := .sequence .list (classExpr "Color") },
      { name := "page", type := text, default := some (.shared (.text "1")) },
      { name := "owner", type := .union [text, .null] },
      { name := "text", type := text, wireAlias := some "q" }]]⟩

def raw : Table String Value := Table.ofList
  [("colors", .list [.text "BLUE", .text "red"]), ("q", .list [.text "a", .text "b"])]

end Sample

open Decoder.Sample

end ApiShape.Decoder
