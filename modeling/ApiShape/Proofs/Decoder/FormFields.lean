import ApiShape.Api.Basic
import ApiShape.Proofs.Converter.Derivation
import ApiShape.Proofs.Decoder.Rules
import ApiShape.Proofs.Multipart.Gathering

/-!
# The fields of a submitted form

A form has fields for texts, for the bytes of files and for files themselves, single ones, perhaps
missing ones, and lists (`Fits`). What a field then holds is `Holds`.

* `Api.readsTexts_start` — the converter of texts takes every text as it is.
* `binds_text`, `binds_bytes`, `binds_file`, `binds_list` — one lemma for each kind of field, by the
  rules for fields.
* **`exists_binds`** — a field is bound to a value that holds what was submitted under its name, or
  has to have a default that its factory fails to make (`LacksDefault`).
* **`inOrder_of_submitted`** — all fields are bound so in order, up to the first without a default.

Files are streams that are read at most once. A field of bytes reads its stream when it is bound,
any other leaves its streams to whoever gets the instance. What is to be kept up from field to field
is `Unread`: apart from names of fields of bytes that have been bound, no stream has been read. That
a field of bytes reads no stream but its own rests on handles, of which no two entries share one.
-/

namespace ApiShape

open ApiShape.Action ApiShape.Multipart ApiShape.Time

/-- The converter of texts takes every text as it is. -/
def State.ReadsTexts (s : State) : Prop :=
  ∃ i, s.registry.entries.get? (.ofBuiltin .str) = some i ∧
    ∀ text nullable, i.converter.convert text nullable = .ok (.value (.text text))

/-- **Texts are taken as they are from the start.** -/
theorem Api.readsTexts_start (api : Api) (zones : ZoneDirectory) :
    (api.start zones).ReadsTexts := by
  obtain ⟨c, hc, htarget, hreads⟩ : ∃ c ∈ leafConverters zones api.settings.lenientPrimitives,
      c.target = .ofBuiltin .str ∧
        ∀ text nullable, c.convert text nullable = .ok (.value (.text text)) :=
    ⟨_, List.mem_append_right _ (.tail _ (.head _)), rfl, fun _ _ => rfl⟩
  obtain ⟨i, hentry, rfl⟩ := Registry.exists_standard hc
  rw [htarget] at hentry
  exact ⟨i, hentry, hreads⟩

namespace Decoder

variable {dec : Decoder} {f : Field} {s s' : State} {raw : Value}

/-! ## Fields of forms -/

/-- What a field of a form holds, or each of its items. -/
inductive FormItem where
  | text
  | bytes
  | file
deriving DecidableEq

namespace FormItem

/-- The class of the items. -/
def builtin : FormItem → Builtin
  | text => .str
  | bytes => .bytes
  | file => .binaryPayload

def type (i : FormItem) : Descriptor := .ofBuiltin i.builtin

/-- It can be submitted for the item: texts for texts, files for the others. -/
def Takes : FormItem → Submitted → Prop
  | text, .text _ | bytes, .file _ | file, .file _ => True
  | _, _ => False

end FormItem

/-- What can be submitted for a field of a type: one item, or none where null is admitted, or any
number of items for a list. -/
inductive Fits : Descriptor → List Submitted → Prop
  | one {i : FormItem} {x : Submitted} (nullable : Bool) (h : i.Takes x) :
      Fits (i.type.withNullable nullable) [x]
  | none (i : FormItem) : Fits (i.type.withNullable true) []
  | many {i : FormItem} {xs : List Submitted} (hi : i ≠ .bytes) (h : ∀ x ∈ xs, i.Takes x) :
      Fits (.array .list i.type) xs

/-- The value holds what was submitted: the text, the bytes of the file, or a stream of them with
the name of the file. -/
inductive Shows (s : State) : FormItem → Submitted → Value → Prop
  | text (t : String) : Shows s .text (.text t) (.text t)
  | bytes (u : Upload) : Shows s .bytes (.file u) (.plainBytes u.content)
  | file (u : Upload) {stream : Stream} (h : (s.current stream).content = u.content) :
      Shows s .file (.file u) (.payload (mediaType u.contentType) (some u.filename) stream)

/-- The value of the field holds what was submitted for it. Where nothing was submitted, it is the
declared default, else null or the empty list. -/
inductive Holds (s : State) (f : Field) : List Submitted → Value → Prop
  | one {i : FormItem} {nullable : Bool} {x : Submitted} {v : Value}
      (htype : f.type = i.type.withNullable nullable) (h : Shows s i x v) : Holds s f [x] v
  | declared {default : Default} {v : Value} (h : f.default = some default)
      (hvalue : default.value = .ok v) : Holds s f [] v
  | null (h : f.default = none) (hnull : f.type.nullable = true) : Holds s f [] .null
  | empty {i : FormItem} (htype : f.type = .array .list i.type) (h : f.default = none) :
      Holds s f [] (.list [])
  | many {i : FormItem} {xs : List Submitted} {vs : List Value}
      (htype : f.type = .array .list i.type) (hne : xs ≠ [])
      (h : List.Forall₂ (Shows s i) xs vs) : Holds s f xs (.list vs)

/-- Nothing was submitted for the field, and the factory of its default fails with the error. -/
structure LacksDefault (f : Field) (xs : List Submitted) (e : Error) : Prop where
  none : xs = []
  fails : f.default = some (.factory (.error e))

/-! ## Streams that are left unread -/

/-- The names of the fields that read their streams. -/
def readUnder (fields : List Field) : List String :=
  (fields.filter fun f => f.type.nonNull = FormItem.bytes.type).map (·.wireName)

/-- Only streams under the given names have been read. -/
def Unread (pairs : List (String × Value)) (names : List String) (s : State) : Prop :=
  ∀ p ∈ pairs, p.1 ∉ names → ∀ h, handleOf p.2 = some h → h ∉ s.spent

/-- Streams under other names besides do not matter. -/
theorem Unread.append {pairs : List (String × Value)} {names : List String}
    (h : Unread pairs names s) (more : List String) : Unread pairs (names ++ more) s :=
  fun p hp hnot => h p hp fun hmem => hnot (List.mem_append_left more hmem)

theorem current_of_not_spent {stream : Stream} (h : ∀ handle, stream.handle = some handle →
    handle ∉ s.spent) : s.current stream = stream := by
  unfold State.current
  cases hhandle : stream.handle with
  | none => rfl
  | some handle =>
    have hnot : ¬ s.spent.contains handle = true := by simpa using h handle hhandle
    exact if_neg hnot

/-- A text or an unread file shows what was submitted. -/
theorem shows_opened {i : FormItem} {x : Submitted} (hi : i ≠ .bytes) (hx : i.Takes x)
    {handle : Nat} (hunread : ∀ h, handleOf (x.opened handle) = some h → h ∉ s.spent) :
    Shows s i x (x.opened handle) := by
  cases i with
  | bytes => exact absurd rfl hi
  | text =>
    cases x with
    | text t => exact .text t
    | file u => cases hx
  | file =>
    cases x with
    | text t => cases hx
    | file u => exact .file u (by rw [current_of_not_spent hunread])

/-! ## Binding the fields -/

/-- The converter of texts is there and gives every text as it is. -/
theorem run_converterFor_text (hreads : s.ReadsTexts) (hbudget : 0 < dec.budget) {d : Descriptor}
    (hd : d.nonNull = FormItem.text.type) :
    ∃ i, (dec.env.converterFor dec.budget d).run s = (.ok i, s) ∧
      ∀ text nullable, i.converter.convert text nullable = .ok (.value (.text text)) := by
  obtain ⟨i, hget, hconvert⟩ := hreads
  obtain ⟨budget, hbudget⟩ := Nat.exists_eq_succ_of_ne_zero hbudget.ne'
  have hkind : dec.env.kind d.nonNull = .leaf := by
    rw [hd]
    rfl
  have hget' : s.registry.entries.get? d.nonNull.nonNull = some i := by
    rw [hd]
    exact hget
  have hresolve : s.registry.resolve dec.env d.nonNull = .ok (s.registry, i) := by
    rw [Registry.resolve, hget']
  refine ⟨i, ?_, hconvert⟩
  rw [hbudget, Environment.converterFor]
  simp only [hkind, ne_eq, reduceCtorEq, not_false_eq_true, if_true]
  show (Action.ofExcept (s.registry.resolve dec.env d.nonNull) >>= _).run s = _
  rw [hresolve]
  rfl

section Binding

variable (hreads : s.ReadsTexts) (hbudget : 0 < dec.budget)

include hreads hbudget

/-- A text field is bound to its text. -/
theorem binds_text {nullable : Bool} (htype : f.type = FormItem.text.type.withNullable nullable)
    {t : String} (hraw : raw.first = .text t) : Binds dec f raw s (.ok (.text t)) s := by
  obtain ⟨i, hconverter, hconvert⟩ :=
    run_converterFor_text (d := f.type) hreads hbudget (by rw [htype]; rfl)
  have hleaf : dec.env.kind f.type = .leaf := by
    rw [htype]
    rfl
  refine .scalar (by rw [hleaf]; decide) (by rw [hleaf]; decide)
    (.converted hconverter (by rw [hraw]; exact Value.noConfusion) ?_)
  rw [hraw]
  exact .value (hconvert t f.type.nullable)

/-- Where nothing was submitted for a field, it is bound to its default or to null. -/
theorem exists_binds_of_none {i : FormItem} (htype : f.type = i.type.withNullable true)
    (hraw : raw.items = []) :
    (∃ v, Binds dec f raw s (.ok v) s ∧ ∀ t, Holds t f [] v) ∨
      ∃ e, Binds dec f raw s (.error e) s ∧ LacksDefault f [] e := by
  have hfirst : raw.first = .null := by rw [Value.first, hraw]; rfl
  have hnull : f.type.nullable = true := by rw [htype]; rfl
  -- the fallback has no part, as null is admitted
  have hbinds : ∀ result, (∀ fallback, Absent f fallback result) → Binds dec f raw s result s := by
    intro result habsent
    cases i with
    | text =>
      obtain ⟨i, hconverter, -⟩ :=
        run_converterFor_text (d := f.type) hreads hbudget (by rw [htype]; rfl)
      have hleaf : dec.env.kind f.type = .leaf := by
        rw [htype]
        rfl
      exact .scalar (by rw [hleaf]; decide) (by rw [hleaf]; decide)
        (.absent hconverter hfirst (habsent _))
    | bytes | file =>
      have hstream : dec.env.kind f.type = .stream := by
        rw [htype]
        rfl
      exact .stream hstream (.absent hfirst (habsent _))
  cases hdefault : f.default with
  | none =>
    -- without a default, null is bound
    exact .inl ⟨.null, hbinds _ fun _ => .null hdefault hnull, fun _ => .null hdefault hnull⟩
  | some default =>
    rcases default.value_cases with ⟨v, hvalue⟩ | ⟨e, rfl⟩
    · exact .inl ⟨v, hbinds _ fun _ => .declared hdefault hvalue,
        fun _ => .declared hdefault hvalue⟩
    · exact .inr ⟨e, hbinds _ fun _ => .declared hdefault rfl, rfl, hdefault⟩

end Binding

/-- An uploaded file is bound as it is. -/
theorem run_adapt_file {d : Descriptor} (hd : d.nonNull = FormItem.file.type) (name : String)
    {x : Submitted} (hx : FormItem.file.Takes x) (handle : Nat) :
    (dec.adapt name d (x.opened handle)).run s = (.ok (x.opened handle), s) := by
  obtain ⟨origin, args, nullable⟩ := d
  cases hd
  cases x with
  | text t => cases hx
  | file u => rfl

/-- A file is bound to a stream as it is. -/
theorem binds_file {nullable : Bool} (htype : f.type = FormItem.file.type.withNullable nullable)
    {x : Submitted} (hx : FormItem.file.Takes x) {handle : Nat}
    (hraw : raw.first = x.opened handle) :
    Binds dec f raw s (.ok (x.opened handle)) s := by
  have hstream : dec.env.kind f.type = .stream := by
    rw [htype]
    rfl
  have hne : raw.first ≠ .null := by
    rw [hraw]
    cases x <;> exact Value.noConfusion
  refine .stream hstream (.adapted hne ?_)
  rw [hraw]
  exact run_adapt_file (by rw [htype]; rfl) f.wireName hx handle

/-- A file is read where bytes are bound. -/
theorem binds_bytes {nullable : Bool} (htype : f.type = FormItem.bytes.type.withNullable nullable)
    {u : Upload} {handle : Nat} (hraw : raw.first = (Submitted.file u).opened handle)
    (hunread : handle ∉ s.spent) :
    Binds dec f raw s (.ok (.plainBytes u.content)) { s with spent := handle :: s.spent } := by
  have hstream : dec.env.kind f.type = .stream := by
    rw [htype]
    rfl
  have hne : raw.first ≠ .null := by
    rw [hraw]
    exact Value.noConfusion
  have hcurrent : s.current { content := u.content, handle := some handle } =
      { content := u.content, handle := some handle } := by
    refine current_of_not_spent fun h hh => ?_
    cases hh
    exact hunread
  refine .stream hstream (.adapted hne ?_)
  rw [hraw, htype]
  show (Except.ok (Value.plainBytes
    (s.current { content := u.content, handle := some handle }).content), _) = _
  rw [hcurrent]
  rfl

/-- Items that are bound to themselves are bound so together. -/
theorem each_self {R : Value → State → Except Error Value → State → Prop}
    {P : Submitted → Value → Prop} {xs : List Submitted} {vs : List Value}
    (h : List.Forall₂ P xs vs) (hR : ∀ x v, P x v → R v s (.ok v) s) : Each R vs s vs s := by
  induction h with
  | nil => exact .nil s
  | cons hx _ ih => exact .cons (hR _ _ hx) ih

/-- A list is bound to its items in order. -/
theorem binds_list (hreads : s.ReadsTexts) (hbudget : 0 < dec.budget) {i : FormItem}
    (htype : f.type = .array .list i.type) (hi : i ≠ .bytes) {xs : List Submitted}
    (hraw : List.Forall₂ (fun x v => i.Takes x ∧ ∃ h, v = Submitted.opened h x) xs raw.items)
    {result : Except Error Value} (hcollects : Collects f raw.items result) :
    Binds dec f raw s result s := by
  have harray : dec.env.kind f.type = .array := by
    rw [htype]
    rfl
  have hitem : dec.env.item f.type.nonNull = .ok i.type := by
    rw [htype]
    rfl
  refine .array harray (.collected hitem ?_ hcollects)
  cases i with
  | bytes => exact absurd rfl hi
  | text =>
    -- all texts share the converter of texts
    have hkind : dec.env.kind FormItem.text.type ≠ .stream := by
      show Kind.leaf ≠ .stream
      decide
    obtain ⟨i, hconverter, hconvert⟩ :=
      run_converterFor_text (d := FormItem.text.type) hreads hbudget rfl
    refine .converted hkind hconverter (.all (each_self hraw ?_))
    rintro x _ ⟨hx, handle, rfl⟩
    cases x with
    | text t => exact ⟨rfl, .value (hconvert t _)⟩
    | file u => cases hx
  | file =>
    -- files are adapted one by one
    refine .streams rfl (.all (each_self hraw ?_))
    rintro x _ ⟨hx, handle, rfl⟩
    exact run_adapt_file rfl f.wireName hx handle

/-- A list without items is bound to its default or stays empty, any other one to its items. -/
theorem exists_binds_list (hreads : s.ReadsTexts) (hbudget : 0 < dec.budget) {i : FormItem}
    (htype : f.type = .array .list i.type) (hi : i ≠ .bytes) {xs : List Submitted}
    (hraw : List.Forall₂ (fun x v => i.Takes x ∧ ∃ h, v = Submitted.opened h x) xs raw.items) :
    (∃ v, Binds dec f raw s (.ok v) s ∧
      (xs = [] ∧ (∀ t, Holds t f xs v) ∨ xs ≠ [] ∧ v = .list raw.items)) ∨
    ∃ e, Binds dec f raw s (.error e) s ∧ LacksDefault f xs e := by
  have hcontainer : containerOf f.type = .list := by
    rw [htype]
    rfl
  by_cases hxs : xs = []
  · -- without parts: the default, else an empty list
    subst hxs
    have hnone : raw.items = [] := List.forall₂_nil_left_iff.1 hraw
    have hnull : f.type.nullable = false := by
      rw [htype]
      rfl
    cases hdefault : f.default with
    | some default =>
      have hcollects : Collects f raw.items default.value := hnone ▸ .declared hdefault rfl
      have hbinds := binds_list hreads hbudget htype hi hraw hcollects
      rcases default.value_cases with ⟨v, hvalue⟩ | ⟨e, rfl⟩
      · rw [hvalue] at hbinds
        exact .inl ⟨v, hbinds, .inl ⟨rfl, fun _ => .declared hdefault hvalue⟩⟩
      · exact .inr ⟨e, hbinds, rfl, hdefault⟩
    | none =>
      have hcollects : Collects f raw.items (.ok (emptyContainer (containerOf f.type))) :=
        hnone ▸ .empty hdefault hnull
      rw [hcontainer] at hcollects
      exact .inl ⟨.list [], binds_list hreads hbudget htype hi hraw hcollects,
        .inl ⟨rfl, fun _ => .empty htype hdefault⟩⟩
  · -- with parts: all of them in order
    have hne : raw.items ≠ [] := by
      intro hnone
      rw [hnone] at hraw
      exact hxs (List.forall₂_nil_right_iff.1 hraw)
    have hcollects : Collects f raw.items (Value.collect (containerOf f.type) raw.items) :=
      .items hne
    rw [hcontainer] at hcollects
    exact .inl ⟨.list raw.items, binds_list hreads hbudget htype hi hraw hcollects,
      .inr ⟨hxs, rfl⟩⟩

/-! ## Binding what was submitted -/

section Submission

variable {first : Nat} {entries : List Entry} {names : List String}

/-- A field is bound from what was submitted under its name: it then holds that, in every state in
which no streams have been read under names of fields that leave theirs unread, such as the field
itself may be. Else it has to have a default and its factory fails. -/
theorem exists_binds (hbudget : 0 < dec.budget) (hreads : s.ReadsTexts)
    (hfits : Fits f.type (sentUnder entries f.wireName))
    (hraw : raw.items = ((openedPairs first entries).filter (·.1 = f.wireName)).map (·.2))
    (hunread : Unread (openedPairs first entries) names s) (hnew : f.wireName ∉ names)
    {all : List String} (hall : f.type.nonNull ≠ FormItem.bytes.type → f.wireName ∉ all) :
    (∃ v s', Binds dec f raw s (.ok v) s' ∧ s'.registry = s.registry ∧
      Unread (openedPairs first entries) (names ++ readUnder [f]) s' ∧
      ∀ t, Unread (openedPairs first entries) all t →
        Holds t f (sentUnder entries f.wireName) v) ∨
    ∃ e, Binds dec f raw s (.error e) s ∧ LacksDefault f (sentUnder entries f.wireName) e := by
  have hsent := hraw ▸ forall₂_openedPairs first entries f.wireName
  clear hraw
  generalize sentUnder entries f.wireName = xs at hfits hsent ⊢
  generalize htype : f.type = d at hfits
  cases hfits with
  | @one i x nullable hx =>
    obtain ⟨v, vs, ⟨handle, rfl, hmem⟩, hrest, hitems⟩ := List.forall₂_cons_left_iff.1 hsent
    have hfirst : raw.first = x.opened handle := by rw [Value.first, hitems, List.headD_cons]
    have hown : ∀ names t, f.wireName ∉ names → Unread (openedPairs first entries) names t →
        ∀ h, handleOf (x.opened handle) = some h → h ∉ t.spent :=
      fun names t hnot ht => ht _ hmem hnot
    cases i with
    | text =>
      -- a text reads no stream, and a file is left unread
      cases x with
      | text t =>
        exact .inl ⟨.text t, s, binds_text hreads hbudget htype hfirst, rfl, hunread.append _,
          fun _ _ => .one htype (.text t)⟩
      | file u => cases hx
    | file =>
      refine .inl ⟨x.opened handle, s, binds_file htype hx hfirst, rfl, hunread.append _,
        fun t ht => ?_⟩
      have hkeeps : f.wireName ∉ all := hall (by rw [htype]; exact fun h => by cases h)
      exact .one htype (shows_opened (by decide) hx (hown all t hkeeps ht))
    | bytes =>
      cases x with
      | text t => cases hx
      | file u =>
        refine .inl ⟨.plainBytes u.content, _,
          binds_bytes htype hfirst (hown names s hnew hunread _ rfl), rfl, ?_,
          fun _ _ => .one htype (.bytes u)⟩
        -- the stream that has been read is that of this field alone
        intro p hp hnot h hh hspent
        have hreads : f.wireName ∈ readUnder [f] := by
          have hbytes : f.type.nonNull = FormItem.bytes.type := by
            rw [htype]
            rfl
          simp [readUnder, hbytes]
        rcases List.mem_cons.1 hspent with rfl | hspent
        · obtain rfl := eq_of_handle hp hmem hh rfl
          exact hnot (List.mem_append_right names hreads)
        · exact hunread p hp (fun hname => hnot (List.mem_append_left _ hname)) h hh hspent
  | none i =>
    rcases exists_binds_of_none hreads hbudget htype (List.forall₂_nil_left_iff.1 hsent) with
      ⟨v, hbinds, hholds⟩ | hfails
    · exact .inl ⟨v, s, hbinds, rfl, hunread.append _, fun t _ => hholds t⟩
    · exact .inr hfails
  | @many i xs hi hx =>
    have hitems := (List.forall₂_and_left xs _).2 ⟨hx, hsent⟩
    have hopened := hitems.imp fun x v ⟨hx, handle, hv, _⟩ =>
      (⟨hx, handle, hv⟩ : i.Takes x ∧ ∃ h, v = Submitted.opened h x)
    rcases exists_binds_list hreads hbudget htype hi hopened with ⟨v, hbinds, hlist⟩ | hfails
    · refine .inl ⟨v, s, hbinds, rfl, hunread.append _, fun t ht => ?_⟩
      rcases hlist with ⟨-, hempty⟩ | ⟨hne, rfl⟩
      · exact hempty t
      · have hkeeps : f.wireName ∉ all := hall (by rw [htype]; exact fun h => by cases h)
        refine .many htype hne (hitems.imp ?_)
        -- a list reads none of its files
        rintro x v ⟨hx, handle, rfl, hmem⟩
        exact shows_opened hi hx (ht _ hmem hkeeps)
    · exact .inr hfails

/-- The names of fields are read one after the other. -/
theorem readUnder_cons (f : Field) (rest : List Field) :
    readUnder (f :: rest) = readUnder [f] ++ readUnder rest := by
  rw [readUnder, readUnder, readUnder, ← List.map_append, ← List.filter_append,
    List.singleton_append]

/-- All fields are bound from what was submitted under their names, up to the first that lacks a
default. Induction on the fields: those that are still to be bound have names of their own, so that
their streams have not been read. -/
theorem inOrder_of_submitted (hbudget : 0 < dec.budget) {raw : Table String Value}
    (hraw : ∀ name, itemsAt raw name =
      ((openedPairs first entries).filter (·.1 = name)).map (·.2))
    {rest : List Field} (hwire : (rest.map (·.wireName)).Nodup)
    (hfits : ∀ f ∈ rest, Fits f.type (sentUnder entries f.wireName)) {all : List String}
    (hall : ∀ f ∈ rest, f.type.nonNull ≠ FormItem.bytes.type → f.wireName ∉ all)
    (hreads : s.ReadsTexts) (hunread : Unread (openedPairs first entries) names s)
    (hnew : ∀ f ∈ rest, f.wireName ∉ names) :
    (∃ arguments s', InOrder (BindsArgument dec raw) rest s (.ok arguments) s' ∧
      Unread (openedPairs first entries) (names ++ readUnder rest) s' ∧
      ∀ t, Unread (openedPairs first entries) all t → ∀ f ∈ rest, ∃ v, (f.key, v) ∈ arguments ∧
        Holds t f (sentUnder entries f.wireName) v) ∨
    ∃ e s', InOrder (BindsArgument dec raw) rest s (.error e) s' ∧
      ∃ f ∈ rest, LacksDefault f (sentUnder entries f.wireName) e := by
  induction rest generalizing s names with
  | nil =>
    -- no field has been read
    refine .inl ⟨[], s, .all (.nil s), ?_, fun _ _ _ hf => (List.not_mem_nil hf).elim⟩
    exact hunread.append _
  | cons f rest ih =>
    rw [List.map_cons, List.nodup_cons] at hwire
    rcases exists_binds hbudget hreads (hfits f List.mem_cons_self) (hraw f.wireName) hunread
        (hnew f List.mem_cons_self) (hall f List.mem_cons_self) with
      ⟨v, s₁, hbinds, hregistry, hunread₁, hholds⟩ | ⟨e, hbinds, hlacks⟩
    · -- the fields left have other names than those that have been read
      have hreads₁ : s₁.ReadsTexts := by
        rw [State.ReadsTexts, hregistry]
        exact hreads
      have hnew₁ : ∀ g ∈ rest, g.wireName ∉ names ++ readUnder [f] := by
        intro g hg hmem
        rcases List.mem_append.1 hmem with hmem | hmem
        · exact hnew g (List.mem_cons_of_mem f hg) hmem
        · obtain ⟨f', hf', hname⟩ := List.mem_map.1 hmem
          obtain rfl := List.mem_singleton.1 (List.mem_filter.1 hf').1
          exact hwire.1 (hname ▸ List.mem_map.2 ⟨g, hg, rfl⟩)
      have hfirst : BindsArgument dec raw f s (.ok (f.key, v)) s₁ := ⟨rfl, hbinds⟩
      rcases ih hwire.2 (fun g hg => hfits g (List.mem_cons_of_mem f hg))
          (fun g hg => hall g (List.mem_cons_of_mem f hg)) hreads₁ hunread₁ hnew₁ with
        ⟨arguments, s', hrest, hunread', hheld⟩ | ⟨e, s', hrest, g, hg, hlacks⟩
      · -- the first value is that of this field, the others are those of the rest
        refine .inl ⟨(f.key, v) :: arguments, s', hrest.cons hfirst, ?_, fun t ht g hg => ?_⟩
        · rw [readUnder_cons, ← List.append_assoc]
          exact hunread'
        · rcases List.mem_cons.1 hg with rfl | hg
          · exact ⟨v, List.mem_cons_self, hholds t ht⟩
          · obtain ⟨w, hw, hheld⟩ := hheld t ht g hg
            exact ⟨w, List.mem_cons_of_mem _ hw, hheld⟩
      · exact .inr ⟨e, s', hrest.cons hfirst, g, List.mem_cons_of_mem f hg, hlacks⟩
    · -- the first field lacks its default
      exact .inr ⟨e, s, .firstFailure (List.nil_append _).symm (.nil s) hbinds, f,
        List.mem_cons_self, hlacks⟩

end Submission

end Decoder

end ApiShape
