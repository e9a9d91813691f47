import ApiShape.Proofs.Budget
import ApiShape.Proofs.Converter.Memo
import ApiShape.Proofs.Converter.Refusals
import ApiShape.Proofs.Decoder.Locations

/-!
# How binding fails

A request is bound, or refused with an error of the client, or the constructor of the parameter set
refuses the values. This takes parsers and wrappers that raise nothing but refusals, factories of
defaults that do not fail otherwise, items of sets that can be hashed, and a cookie header that can
be read.

* `Binds.isClient_of_error`, `InOrder.isClient_of_error` — a field that cannot be bound, and the
  first of all fields that cannot, is refused with an error of the client.
* `endsAsDocumented_of_bind` — how a single binding ends.
* **`bind_fails_as_documented`** — how every binding ends, after any history of uses.
* **`cookie_header_escapes`** — a cookie header that cannot be read fails with an error that is none
  of these.
-/

namespace ApiShape

open ApiShape.Action

variable {env : Environment} {known : Descriptor → Option Converter} {s s' : State} {d : Descriptor}

namespace Decoder

variable {dec : Decoder} {f : Field} {fields : List Field} {c : Converter} {good : Value → Prop}
  {allowed : Error → Prop}

/-- **A text that is not converted is refused with an error of the client.** -/
theorem Converts.isClient_of_error {raw : Value} {e : Error} (h : Converts f d c raw (.error e))
    (hc : c.Yields good Error.IsRefusal) : e.isClient = true := by
  cases h with
  | unfit => rfl
  | notText => rfl
  | raised h =>
    obtain ⟨hparse, hfit⟩ := Converter.error_of_convert h
    refine (hc.raised hparse).resolve_left ?_
    rw [hfit]
    exact Bool.false_ne_true

/-- A raw value is converted to what the converter yields, or to null. -/
theorem Converts.good_of_ok {raw v : Value} (h : Converts f d c raw (.ok v))
    (hc : c.Yields good allowed) (hnull : good .null) : good v := by
  cases h with
  | value h =>
    rcases Converter.value_of_convert h with hparse | rfl | hdefault
    · exact hc.parsed hparse
    · exact hnull
    · exact hc.default hdefault

/-- If the default of the field is made by a factory, this raises nothing but errors of the
client. -/
def DefaultRefuses (f : Field) : Prop :=
  ∀ default e, f.default = some default → default.value = .error e → e.isClient = true

/-- Without a raw value, a field fails as one that is required, or with its factory. -/
theorem Absent.isClient_of_error {fallback : Option Value} {e : Error}
    (h : Absent f fallback (.error e)) (hdefault : DefaultRefuses f) : e.isClient = true := by
  cases h with
  | declared h hvalue => exact hdefault _ e h hvalue
  | required => rfl

/-- A text is refused where a stream is expected. -/
theorem isClient_of_adapt_text {name text : String} {e : Error}
    (h : (dec.adapt name d (.text text)).run s = (.error e, s')) : e.isClient = true := by
  cases h
  rfl

/-! ## Collecting items -/

/-- The values of the field are hashed. -/
def hashes (f : Field) : Bool :=
  match containerOf f.type with
  | .set | .frozenset => true
  | .list | .tuple => false

/-- The value can be put into the container of the field. -/
def FitsContainer (f : Field) (v : Value) : Prop := hashes f = true → v.unhashable? = none

theorem fitsContainer_null (f : Field) : FitsContainer f .null := fun _ => rfl

theorem unhashableIn?_eq_none {values : List Value} (h : ∀ v ∈ values, v.unhashable? = none) :
    Value.unhashableIn? values = none := by
  induction values with
  | nil => rfl
  | cons v rest ih =>
    rw [Value.unhashableIn?, h v List.mem_cons_self]
    exact ih fun w hw => h w (List.mem_cons_of_mem v hw)

/-- Values that fit their container are collected. -/
theorem exists_collect {values : List Value} (h : ∀ v ∈ values, FitsContainer f v) :
    ∃ v, Value.collect (containerOf f.type) values = .ok v := by
  unfold FitsContainer hashes at h
  cases hcontainer : containerOf f.type with
  | list => exact ⟨_, rfl⟩
  | tuple => exact ⟨_, rfl⟩
  | set | frozenset =>
    simp only [hcontainer, forall_const] at h
    simp only [Value.collect, Value.setOf, unhashableIn?_eq_none h]
    exact ⟨_, rfl⟩

/-- Collecting values that fit fails only with the factory of the default. -/
theorem Collects.isClient_of_error {values : List Value} {e : Error}
    (h : Collects f values (.error e)) (hdefault : DefaultRefuses f)
    (hfits : ∀ v ∈ values, FitsContainer f v) : e.isClient = true := by
  obtain ⟨v, hv⟩ := exists_collect hfits
  generalize hx : (Except.error e : Except Error Value) = x at h
  cases h with
  | declared h hvalue => exact hdefault _ e h (hvalue.trans hx.symm)
  | null | empty => cases hx
  | items =>
    rw [hv] at hx
    cases hx

/-! ## Fields -/

/-- From every consistent state, the texts of the field get a converter that raises nothing but
refusals. -/
def Served (env : Environment) (budget : Nat) (known : Descriptor → Option Converter) (f : Field) :
    Prop :=
  ∀ d, textType? env f = some d → ∃ c : Converter, c.Yields (FitsContainer f) Error.IsRefusal ∧
    ∀ s, Consistent env known s →
      wp (env.converterFor budget d) (fun i _ => i.converter = c) (fun _ _ => False) s

/-- The items of an array fail as texts that cannot be converted. -/
theorem BindsItems.isClient_of_error {item : Descriptor} {raw : List Value} {e : Error}
    (h : BindsItems dec f item raw s (.error e) s') (hitem : dec.env.item f.type.nonNull = .ok item)
    (harray : dec.env.kind f.type = .array) (hserved : Served dec.env dec.budget known f)
    (hs : Consistent dec.env known s) (hraw : ∀ w ∈ raw, ∃ text, w = .text text) :
    e.isClient = true := by
  cases h with
  | streams _ h =>
    cases h with
    | firstFailure hsplit _ hx =>
      obtain ⟨text, rfl⟩ := hraw _ (hsplit ▸ List.mem_append_right _ List.mem_cons_self)
      exact isClient_of_adapt_text hx
  | unresolved hne hconverter =>
    obtain ⟨c, -, hc⟩ := hserved item (textType?_of_array harray hitem hne)
    exact (fail_of_run (hc s hs) hconverter).elim
  | converted hne hconverter h =>
    obtain ⟨c, hyields, hc⟩ := hserved item (textType?_of_array harray hitem hne)
    obtain rfl := post_of_run (hc s hs) hconverter
    cases h with
    | firstFailure _ _ hx => exact hx.2.isClient_of_error hyields

/-- The items that texts are converted to fit the container of the field. -/
theorem BindsItems.fitsContainer_of_ok {item : Descriptor} {raw values : List Value}
    (h : BindsItems dec f item raw s (.ok values) s')
    (hitem : dec.env.item f.type.nonNull = .ok item) (harray : dec.env.kind f.type = .array)
    (hserved : Served dec.env dec.budget known f) (hs : Consistent dec.env known s)
    (hraw : ∀ w ∈ raw, ∃ text, w = .text text) : ∀ v ∈ values, FitsContainer f v := by
  cases h with
  | streams _ h =>
    -- no text is a stream, so there are no items
    cases h with
    | all h =>
      cases h with
      | nil => exact fun _ hv => (List.not_mem_nil hv).elim
      | cons hx =>
        obtain ⟨text, rfl⟩ := hraw _ List.mem_cons_self
        exact absurd hx adapt_text_ne_ok
  | converted hne hconverter h =>
    obtain ⟨c, hyields, hc⟩ := hserved item (textType?_of_array harray hitem hne)
    obtain rfl := post_of_run (hc s hs) hconverter
    cases h with
    | all h =>
      clear hconverter hraw
      induction h with
      | nil => exact fun _ hv => (List.not_mem_nil hv).elim
      | cons hx _ ih =>
        intro v hv
        rcases List.mem_cons.1 hv with rfl | hv
        · exact hx.2.good_of_ok hyields (fitsContainer_null f)
        · exact ih v hv

/-- **A field that cannot be bound to texts is refused with an error of the client.** -/
theorem Binds.isClient_of_error {raw : Value} {e : Error} (h : Binds dec f raw s (.error e) s')
    (hserved : Served dec.env dec.budget known f) (hdefault : DefaultRefuses f)
    (hs : Consistent dec.env known s)
    (hraw : ∀ w ∈ raw.items, ∃ text, w = .text text) : e.isClient = true := by
  cases h with
  -- streams: a text is refused, and an absent field is left to its default
  | stream _ h =>
    cases h with
    | absent _ h => exact h.isClient_of_error hdefault
    | adapted hne h =>
      obtain ⟨text, htext⟩ := exists_text_of_first hraw hne
      rw [htext] at h
      exact isClient_of_adapt_text h
  -- sequences: an item may be refused, or the container may be
  | array harray h =>
    cases h with
    | failed hitem hitems => exact hitems.isClient_of_error hitem harray hserved hs hraw
    | collected hitem hitems h =>
      exact h.isClient_of_error hdefault
        (hitems.fitsContainer_of_ok hitem harray hserved hs hraw)
  -- any other field: its converter is there, so only the text can be at fault
  | scalar hstream harray h =>
    obtain ⟨c, hyields, hc⟩ := hserved f.type (textType?_of_scalar hstream harray)
    cases h with
    | unresolved hconverter => exact (fail_of_run (hc s hs) hconverter).elim
    | absent _ _ h => exact h.isClient_of_error hdefault
    | converted hconverter _ h =>
      obtain rfl := post_of_run (hc s hs) hconverter
      exact h.isClient_of_error hyields

/-! ## Records -/

variable {raw : Table String Value}

/-- Binding fields keeps what is remembered consistent. -/
theorem Each.consistent {arguments : List (String × Value)}
    (h : Each (BindsArgument dec raw) fields s arguments s') (hs : Consistent dec.env known s) :
    Consistent dec.env known s' := by
  have hfield : ∀ f raw, Keeps (Consistent dec.env known) (dec.field f raw) := fun f raw =>
    keeps_field (keeps_converterFor _) (fun _ _ h => h.of_eq rfl rfl) f raw
  induction h with
  | nil => exact hs
  | @cons f _ _ _ s₀ _ _ hx _ ih =>
    have hkept := post_of_run (hfield f (rawOf raw f) s₀ hs) (run_field_iff.2 hx.2)
    exact ih hkept

/-- **The first field that cannot be bound is refused with an error of the client.** -/
theorem InOrder.isClient_of_error {e : Error}
    (h : InOrder (BindsArgument dec raw) fields s (.error e) s')
    (hserved : ∀ f ∈ fields, Served dec.env dec.budget known f)
    (hdefaults : ∀ f ∈ fields, DefaultRefuses f) (hs : Consistent dec.env known s)
    (hraw : ∀ f ∈ fields, ∀ w ∈ (rawOf raw f).items, ∃ text, w = .text text) :
    e.isClient = true := by
  cases h with
  | firstFailure hsplit hbefore hx =>
    have hmem := hsplit ▸ List.mem_append_right _ List.mem_cons_self
    exact Binds.isClient_of_error hx (hserved _ hmem) (hdefaults _ hmem)
      (Each.consistent hbefore hs) (hraw _ hmem)

/-! ## Requests -/

/-- If the cookies can be read, all parameters are gathered. -/
theorem exists_parameters {r : Http.Request}
    (hcookies : ∀ f ∈ fields, f.location = .cookie → ∃ cookies, r.cookies = .ok cookies) :
    ∃ raw, dec.parameters r fields = .ok raw := by
  have hlookup : ∀ f ∈ fields, ∀ e, dec.lookup r f ≠ .error e := by
    intro f hf e
    -- only cookies are read, and may not be readable
    unfold lookup
    split
    · exact fun h => by cases h
    · next hlocation =>
      obtain ⟨cookies, hread⟩ := hcookies f hf hlocation
      rw [hread]
      exact fun h => by cases h
    · exact fun h => by cases h
    · exact fun h => by cases h
  unfold parameters
  cases hfound : fields.mapM (fun f => do return (f.wireName, ← dec.lookup r f)) with
  | ok pairs => exact ⟨_, rfl⟩
  | error e =>
    obtain ⟨f, hf, hfails⟩ := exists_of_mapM_error hfound
    rcases bind_eq_error_iff.1 hfails with hresult | ⟨texts, -, hpure⟩
    · exact absurd hresult (hlookup f hf e)
    · cases hpure

/-- The values are those that the fields are bound to in the request, by the keys of the
constructor. -/
def Bound (dec : Decoder) (r : Http.Request) (fields : List Field) (s : State)
    (arguments : List (String × Value)) : Prop :=
  ∃ raw s', dec.parameters r fields = .ok raw ∧ Each (BindsArgument dec raw) fields s arguments s'

/-- How a binding may end: the constructor has made an instance from the bound values, or has
refused them, or an error of the client is raised. -/
def EndsAsDocumented (dec : Decoder) (r : Http.Request) (d : Descriptor) (fields : List Field)
    (s : State) : Except Error Value → Prop
  | .ok v => ∃ arguments, Bound dec r fields s arguments ∧
      dec.env.construct d.origin (Table.ofList arguments).entries = .ok v
  | .error e => e.isClient = true ∨ ∃ arguments, Bound dec r fields s arguments ∧
      dec.env.construct d.origin (Table.ofList arguments).entries = .error e

variable {a : TypeExpr} {t : Descriptor}

/-- A binding whose cookies can be read comes to what binding the fields comes to. -/
theorem endsAsDocumented_of_bind (ht : describe a = .ok t)
    (hobject : dec.env.kind t.nonNull = .object) (hfields : dec.env.fields t.nonNull = .ok fields)
    (hserved : ∀ f ∈ fields, Served dec.env dec.budget known f)
    (hdefaults : ∀ f ∈ fields, DefaultRefuses f) (hs : Consistent dec.env known s)
    {r : Http.Request}
    (hcookies : ∀ f ∈ fields, f.location = .cookie → ∃ cookies, r.cookies = .ok cookies)
    {result : Except Error Value} (hrun : (dec.bind r a).run s = (result, s')) :
    EndsAsDocumented dec r t.nonNull fields s result := by
  obtain ⟨raw, hraw⟩ : ∃ raw, dec.parameters r fields = .ok raw := exists_parameters hcookies
  have htexts := fun f hf => exists_text_of_parameters (f := f) hraw hf
  have hdecode : (dec.decodeRecord t.nonNull raw).run s = (result, s') := by
    rw [bind_eq ht hobject hfields, hraw] at hrun
    rwa [← decode_eq ht hobject]
  cases (run_decodeRecord_iff hfields).1 hdecode with
  -- no field stands in the way: what the constructor does is all that is left
  | failed h => exact .inl (InOrder.isClient_of_error h hserved hdefaults hs htexts)
  | @constructed arguments _ h =>
    cases h with
    | all heach =>
      have hbound : Bound dec r fields s arguments := ⟨raw, _, hraw, heach⟩
      cases hmade : dec.env.construct t.nonNull.origin (Table.ofList arguments).entries with
      | ok v => exact ⟨arguments, hbound, hmade⟩
      | error e => exact .inr ⟨arguments, hbound, hmade⟩

/-! ## Every binding -/

/-- A budget that is enough for the converters of all fields. -/
theorem exists_served (hs : Consistent env known s)
    (hconverters : ∀ f ∈ fields, ∀ d, textType? env f = some d → ∃ c, env.Answers s d (.ok c))
    (hrefuses : ∀ f ∈ fields, ∀ d, textType? env f = some d → Refuses env known d)
    (hfits : ∀ f ∈ fields, ∀ d, textType? env f = some d →
      ∀ v, Gives env known d v → FitsContainer f v) :
    ∃ depth, ∀ f ∈ fields, ∀ budget, depth ≤ budget → Served env budget known f := by
  refine exists_bound fun f hf => ?_
  cases htype : textType? env f with
  | none =>
    -- streams need no converter
    refine ⟨0, fun _ _ d hd => ?_⟩
    cases htype.symm.trans hd
  | some type =>
    obtain ⟨c, hanswers⟩ := hconverters f hf type htype
    have hderives := hs.derives_of_answers hanswers (by rintro ⟨⟩)
    obtain ⟨depth, hdepth⟩ := hderives.exists_depth
    refine ⟨depth, fun budget hbudget d hd => ?_⟩
    obtain rfl := Option.some.inj (htype.symm.trans hd)
    refine ⟨c, (hderives.yields (hrefuses f hf type htype)).mono (hfits f hf type htype),
      fun s' hs' => ?_⟩
    -- with enough budget the converter is the one that is derived, whatever the state holds by then
    refine wp_mono (hdepth budget hbudget s' hs') ?_ ?_
    · intro i _ heq
      exact (Except.ok.inj heq).symm
    · intro e _ heq
      cases heq

/-- **Binding fails only as documented.** From a state in which no converter is remembered, after
any history of uses, every request is bound to an instance that the constructor has made, or is
refused with an error of the client, or the constructor refuses the values. This asks for a
converter for the texts of each field, whose parser and constructors raise nothing but refusals; for
factories of defaults that raise nothing but errors of the client; for items of sets that can be
hashed; and for cookies that can be read, where a field is a cookie. -/
theorem bind_fails_as_documented (env : Environment) (s : State) (hnew : s.derived = ∅)
    (uses : List Use) (ht : describe a = .ok t) (hobject : env.kind t.nonNull = .object)
    (hfields : env.fields t.nonNull = .ok fields)
    (hconverters : ∀ f ∈ fields, ∀ d, textType? env f = some d → ∃ c, env.Answers s d (.ok c))
    (hrefuses : ∀ f ∈ fields, ∀ d, textType? env f = some d →
      Refuses env (s.registry.converterOf? env) d)
    (hdefaults : ∀ f ∈ fields, DefaultRefuses f)
    (hfits : ∀ f ∈ fields, ∀ d, textType? env f = some d →
      ∀ v, Gives env (s.registry.converterOf? env) d v → FitsContainer f v) :
    let after := uses.foldl (Use.run env) s
    ∃ depth, ∀ dec : Decoder, dec.env = env → depth ≤ dec.budget → ∀ r : Http.Request,
      (∀ f ∈ fields, f.location = .cookie → ∃ cookies, r.cookies = .ok cookies) →
      ∀ result s', (dec.bind r a).run after = (result, s') →
        EndsAsDocumented dec r t.nonNull fields after result := by
  intro after
  have hs := consistent_of_derived_eq_empty env hnew
  have hafter : Consistent env (s.registry.converterOf? env) after := hs.uses uses
  obtain ⟨depth, hserved⟩ := exists_served hs hconverters hrefuses hfits
  refine ⟨depth, fun dec henv hbudget r hcookies result s' hrun => ?_⟩
  subst henv
  exact endsAsDocumented_of_bind ht hobject hfields
    (fun f hf => hserved f hf dec.budget hbudget) hdefaults hafter hcookies hrun

open ApiShape.Sample

namespace Sample

/-- Counts wrap a whole number that is at least one. A visit has a set of counts in its query and
perhaps a theme among its cookies. -/
def visits : Environment := ⟨[
  { recordClass "Count"
      { form := .dataclass
        fields := [{ name := "value", type := number }]
        frozen := true
        own := some (.checked [⟨"value", .atLeast (.ofInt 1), .value, "no items"⟩]) } with
    isWrapper := true },
  dataclass "Visit" [
    { name := "counts"
      type := .annotated (.sequence .set (classExpr "Count")) [.parameter .query none none] },
    { name := "theme"
      type := .annotated (.union [text, .null]) [.parameter .cookie none none] }]]⟩

def countOf (n : Int) : Value :=
  .record ⟨.named (.declared (classNamed "Count")), .dataclass, true⟩
    [("value", .integer .unbounded n)]

/-- A count refuses numbers below one, as unfit. -/
theorem wrap_count (n : Int) :
    visits.wrap (classType "Count") (.integer .unbounded n) =
        .error (.fault (.raised .value "no items")) ∨
      visits.wrap (classType "Count") (.integer .unbounded n) = .ok (countOf n) := by
  obtain ⟨few, h⟩ : ∃ few : Bool, visits.wrap (classType "Count") (.integer .unbounded n) =
      ((if few then .error (.fault (.raised .value "no items")) else .ok ()) >>=
        fun _ => .ok [("value", .integer .unbounded n)]) >>= fun made => .ok (.record
          ⟨.named (.declared (classNamed "Count")), .dataclass, true⟩ made) :=
    ⟨(Number.Decimal.ofInt n).normal.lt (Number.Decimal.ofInt 1).normal, rfl⟩
  cases few with
  | true => exact .inl h
  | false => exact .inr h

/-- Counts are made from whole numbers. -/
theorem exists_integer_of_gives {v : Value}
    (h : Gives visits (fresh.registry.converterOf? visits) (.ofBuiltin .int) v) :
    ∃ n, v = .integer .unbounded n := by
  cases h with
  | parsed _ hknown hparse =>
    cases hknown
    exact exists_integer_of_read hparse
  | default _ hknown hdefault =>
    cases hknown
    cases hdefault
    exact ⟨0, rfl⟩
  | made hkind => exact absurd hkind (by decide)

/-- The converter of counts gives counts. -/
theorem exists_count_of_gives {v : Value}
    (h : Gives visits (fresh.registry.converterOf? visits) (classType "Count") v) :
    ∃ n, v = countOf n := by
  cases h with
  | parsed hkind | default hkind => exact absurd rfl hkind
  | @made _ inner v _ _ hunwrap hinner hwrap =>
    obtain rfl : .ofBuiltin .int = inner := Except.ok.inj hunwrap
    obtain ⟨n, rfl⟩ := exists_integer_of_gives hinner
    rcases wrap_count n with hrefused | hmade
    · cases hrefused.symm.trans hwrap
    · exact ⟨n, (Except.ok.inj (hmade.symm.trans hwrap)).symm⟩

theorem refuses_count :
    Refuses visits (fresh.registry.converterOf? visits) (classType "Count") := by
  refine Registry.refuses_standard fun {w inner v e} hway hkind hunwrap hinner hwrap => ?_
  cases hway with
  | refl =>
    obtain rfl : .ofBuiltin .int = inner := Except.ok.inj hunwrap
    obtain ⟨n, rfl⟩ := exists_integer_of_gives hinner
    rcases wrap_count n with hrefused | hmade
    · cases hrefused.symm.trans hwrap
      exact .inl rfl
    · cases hmade.symm.trans hwrap
  | step _ hstep hway =>
    cases hstep
    exact absurd hkind (hway.kind_ne (by decide))

def optionalText : Descriptor := (Descriptor.ofBuiltin .str).withNullable true

theorem refuses_optionalText :
    Refuses visits (fresh.registry.converterOf? visits) optionalText := by
  refine Registry.refuses_standard fun hway hkind _ _ _ => ?_
  exact absurd hkind (hway.kind_ne (by decide))

/-- A visit with the texts as counts and the cookie header. -/
def visit (counts : List String) (cookies : String) : Http.Request :=
  requestWith [("counts", counts)] [("cookie", cookies)]

/-- A cookie header that is one item. -/
theorem items_eq_singleton {s : List Char} {item : Http.Cookie.Item}
    (h : Http.Cookie.item? s = some (item, [])) (hlength : 0 < s.length) :
    Http.Cookie.items s = [item] := by
  rw [Http.Cookie.items, h]
  dsimp only [List.length_nil]
  rw [if_pos hlength, Http.Cookie.items]
  rfl

theorem cookies_theme (counts : List String) :
    (visit counts "theme=dark").cookies = .ok (Table.ofList [("theme", "dark")]) := by
  have hitem : Http.Cookie.item? "theme=dark".toList =
      some (⟨"theme".toList, some "dark".toList⟩, []) := by decide +kernel
  show Http.Cookie.read "theme=dark" = _
  rw [Http.Cookie.read, items_eq_singleton hitem (by decide +kernel)]
  rfl

theorem cookies_illegal (counts : List String) :
    (visit counts "a@b=1").cookies = .error (.fault (.cookieKey "a@b")) := by
  have hitem : Http.Cookie.item? "a@b=1".toList =
      some (⟨"a@b".toList, some "1".toList⟩, []) := by decide +kernel
  show Http.Cookie.read "a@b=1" = _
  rw [Http.Cookie.read, items_eq_singleton hitem (by decide +kernel)]
  rfl

/-- The fields of a visit, and what their texts are converted to. -/
theorem exists_fields_visit : ∃ counts theme,
    visits.fields (classType "Visit") = .ok [counts, theme] ∧
      textType? visits counts = some (classType "Count") ∧
      textType? visits theme = some optionalText ∧ hashes theme = false ∧
      counts.default = none ∧ theme.default = none ∧
      counts.location = .query ∧ theme.location = .cookie :=
  ⟨_, _, rfl, rfl, rfl, rfl, rfl, rfl, rfl, rfl⟩

variable {counts theme : Field}

theorem cases_of_textType? (hcounts : textType? visits counts = some (classType "Count"))
    (htheme : textType? visits theme = some optionalText) (hf : f ∈ [counts, theme])
    (hd : textType? visits f = some d) :
    (f = counts ∧ d = classType "Count") ∨ (f = theme ∧ d = optionalText) := by
  rcases List.mem_pair.1 hf with rfl | rfl
  · exact .inl ⟨rfl, Option.some.inj (hd.symm.trans hcounts)⟩
  · exact .inr ⟨rfl, Option.some.inj (hd.symm.trans htheme)⟩

theorem exists_answers (hcounts : textType? visits counts = some (classType "Count"))
    (htheme : textType? visits theme = some optionalText) :
    ∀ f ∈ [counts, theme], ∀ d, textType? visits f = some d →
      ∃ c, visits.Answers fresh d (.ok c) := by
  have hs := consistent_of_derived_eq_empty visits (s := fresh) rfl
  intro f hf d hd
  rcases cases_of_textType? hcounts htheme hf hd with ⟨-, rfl⟩ | ⟨-, rfl⟩
  -- one level for counts and one for the whole numbers in them
  · obtain ⟨i, hi⟩ : ∃ i, ((visits.converterFor 2 (classType "Count")).run fresh).1 = .ok i :=
      ⟨_, rfl⟩
    exact ⟨i.converter, hs.answers_of_run hi⟩
  · obtain ⟨i, hi⟩ : ∃ i, ((visits.converterFor 1 optionalText).run fresh).1 = .ok i := ⟨_, rfl⟩
    exact ⟨i.converter, hs.answers_of_run hi⟩

end Sample

open Decoder.Sample

/-- A visit is bound as documented after counts have been derived. -/
theorem bind_fails_as_documented_visit :
    let after := [.derive 9 (classType "Count")].foldl (Use.run visits) fresh
    let r := visit ["2", "x"] "theme=dark"
    ∃ fields depth, visits.fields (classType "Visit") = .ok fields ∧
      let dec : Decoder := { env := visits, budget := depth }
      EndsAsDocumented dec r (classType "Visit") fields after
        ((dec.bind r (classExpr "Visit")).run after).1 := by
  intro after r
  obtain ⟨counts, theme, hfields, hcounts, htheme, hhashes, hdefault, hdefault', -⟩ :=
    exists_fields_visit
  have hdefaults : ∀ f ∈ [counts, theme], DefaultRefuses f := by
    intro f hf default e h
    rcases List.mem_pair.1 hf with rfl | rfl
    · cases hdefault.symm.trans h
    · cases hdefault'.symm.trans h
  have hrefuses : ∀ f ∈ [counts, theme], ∀ d, textType? visits f = some d →
      Refuses visits (fresh.registry.converterOf? visits) d := by
    intro f hf d hd
    rcases cases_of_textType? hcounts htheme hf hd with ⟨-, rfl⟩ | ⟨-, rfl⟩
    · exact refuses_count
    · exact refuses_optionalText
  have hfits : ∀ f ∈ [counts, theme], ∀ d, textType? visits f = some d →
      ∀ v, Gives visits (fresh.registry.converterOf? visits) d v → FitsContainer f v := by
    intro f hf d hd v hv
    rcases cases_of_textType? hcounts htheme hf hd with ⟨-, rfl⟩ | ⟨rfl, -⟩
    · obtain ⟨n, rfl⟩ := exists_count_of_gives hv
      exact fun _ => rfl
    · intro hhashed
      cases hhashes.symm.trans hhashed
  obtain ⟨depth, hdepth⟩ := bind_fails_as_documented (a := classExpr "Visit") visits fresh rfl
    [.derive 9 (classType "Count")] rfl rfl hfields (exists_answers hcounts htheme) hrefuses
      hdefaults hfits
  exact ⟨_, depth, hfields, hdepth { env := visits, budget := depth } rfl (Nat.le_refl depth) r
    (fun _ _ _ => ⟨_, cookies_theme _⟩) _ _ rfl⟩

/-- **A cookie header that cannot be read escapes.** All fields of a visit have converters, but the
key of a cookie that is not legal raises an error that is neither one of the client nor one of the
constructor. -/
theorem cookie_header_escapes :
    let dec : Decoder := { env := visits }
    let r := visit [] "a@b=1"
    let e : Error := .fault (.cookieKey "a@b")
    ∃ fields, visits.fields (classType "Visit") = .ok fields ∧
      (∀ f ∈ fields, ∀ d, textType? visits f = some d → ∃ c, visits.Answers fresh d (.ok c)) ∧
      ((dec.bind r (classExpr "Visit")).run fresh).1 = .error e ∧
      ¬ EndsAsDocumented dec r (classType "Visit") fields fresh (.error e) := by
  intro dec r e
  obtain ⟨counts, theme, hfields, hcounts, htheme, -, -, -, hquery, hcookie⟩ := exists_fields_visit
  obtain ⟨texts, hbefore⟩ : ∃ texts, dec.lookup r counts = .ok texts :=
    ⟨_, by rw [lookup, hquery]⟩
  have hlookup : dec.lookup r theme = .error e := by
    rw [lookup, hcookie]
    dsimp only
    rw [cookies_illegal]
    rfl
  have hparameters : dec.parameters r [counts, theme] = .error e := by
    rw [parameters, List.mapM_cons, List.mapM_cons, hbefore, hlookup]
    rfl
  refine ⟨_, hfields, exists_answers hcounts htheme, ?_, ?_⟩
  · rw [bind_eq (t := classType "Visit") rfl rfl hfields, hparameters]
    rfl
  · rintro (hclient | ⟨arguments, ⟨raw, s', hraw, -⟩, -⟩)
    · cases hclient
    · cases hparameters.symm.trans hraw

end Decoder

end ApiShape
