import ApiShape.Decoder.Binding
import ApiShape.Proofs.Decoder.Rules
import Mathlib.Data.List.Nodup

/-!
# Parameter locations

A parameter is identified by its name on the wire and its location. Binding looks every field up in
its own location, but gathers what it finds by name alone before it decodes.

* `Http.Request.valuesAt` — what a request has under a name in a location.
* **`parameters`** — what is gathered, without the state; `bind_eq` says that this is what is
  decoded.
* `exists_rawOf_parameters` — the raw value of a field is what was found for some field of its name,
  and for the last of them that anything was found for.
* `Binds.state` — the values of parameters do not show in the state, so a field is bound in the same
  state whatever the fields before it are bound to.
* **`bind_own_location`** — if fields of one name have one location, a field is bound from its own
  location, and what a request holds elsewhere does not matter to it.
* **`locations_interfere`** — otherwise it does matter.
-/

namespace ApiShape

open ApiShape.Action

/-- The values that a request has under a name in a location. Names of headers are in lower case. -/
def Http.Request.valuesAt (r : Http.Request) (location : Location) (name : String) :
    Except Error (List String) :=
  match location with
  | .path => .ok (r.pathParams.get? name).toList
  | .cookie => do return ((← r.cookies).get? name).toList
  | .header => .ok ((r.headerValues.get? (lowerCase name)).getD [])
  | .query => .ok ((r.query.get? name).getD [])

namespace Decoder

variable {dec : Decoder} {f : Field} {fields : List Field} {s s' : State}

/-- A field is looked up in its location; the header of an array is split at its commas. -/
theorem lookup_eq (dec : Decoder) (r : Http.Request) (f : Field) :
    dec.lookup r f = (r.valuesAt f.location f.wireName).map fun values =>
      if f.location = .header ∧ dec.env.kind f.type = .array then headerItems values
      else values := by
  unfold lookup Http.Request.valuesAt
  cases f.location with
  | path => rfl
  | query => rfl
  | header =>
    simp only [true_and]
    rfl
  | cookie =>
    simp only [reduceCtorEq, false_and, if_false]
    cases r.cookies with
    | ok cookies => rfl
    | error e => rfl

/-! ## What is gathered -/

/-- What is gathered for the fields: what was found for each of them, by name, where there was
anything. -/
def parameters (dec : Decoder) (r : Http.Request) (fields : List Field) :
    Except Error (Table String Value) := do
  let found ← fields.mapM fun f => do return (f.wireName, ← dec.lookup r f)
  return (Table.ofList (found.filter fun p => !p.2.isEmpty)).mapValues fun values =>
    .list (values.map .text)

/-- What is found for a field. -/
def found (dec : Decoder) (r : Http.Request) (f : Field) : List String :=
  match dec.lookup r f with
  | .ok values => values
  | .error _ => []

/-- What was found, by name, for the fields that anything was found for. -/
def findings (dec : Decoder) (r : Http.Request) (fields : List Field) :
    List (String × List String) :=
  (fields.map fun f => (f.wireName, dec.found r f)).filter fun p => !p.2.isEmpty

/-- The raw value for texts that were found. -/
def rawValue (texts : List String) : Value :=
  if texts.isEmpty then .null else .list (texts.map .text)

/-- If all lookups succeed, every field has what was found for it. -/
theorem mapM_lookup_eq_ok {r : Http.Request} {pairs : List (String × List String)}
    (h : fields.mapM (fun f => do return (f.wireName, ← dec.lookup r f)) = .ok pairs) :
    (∀ f ∈ fields, dec.lookup r f = .ok (dec.found r f)) ∧
      pairs = fields.map fun f => (f.wireName, dec.found r f) := by
  induction fields generalizing pairs with
  | nil =>
    cases h
    exact ⟨fun _ hf => (List.not_mem_nil hf).elim, rfl⟩
  | cons f rest ih =>
    rw [List.mapM_cons] at h
    obtain ⟨pair, hpair, htail⟩ := bind_eq_ok_iff.1 h
    obtain ⟨values, hlookup, hpure⟩ := bind_eq_ok_iff.1 hpair
    obtain ⟨more, hrest, hpure'⟩ := bind_eq_ok_iff.1 htail
    cases hpure
    cases hpure'
    obtain ⟨hfound, rfl⟩ := ih hrest
    have hf : dec.found r f = values := by rw [found, hlookup]
    refine ⟨fun g hg => ?_, by rw [List.map_cons, hf]⟩
    rcases List.mem_cons.1 hg with rfl | hg
    · rw [hlookup, hf]
    · exact hfound g hg

variable {r r' : Http.Request} {raw raw' : Table String Value}

/-- The raw values of a binding are the findings of its fields by wire name. -/
theorem parameters_eq_ok (h : dec.parameters r fields = .ok raw) :
    (∀ f ∈ fields, dec.lookup r f = .ok (dec.found r f)) ∧
      raw = (Table.ofList (dec.findings r fields)).mapValues
        fun texts => .list (texts.map .text) := by
  obtain ⟨pairs, hfound, hpure⟩ := bind_eq_ok_iff.1 h
  cases hpure
  obtain ⟨hlookup, rfl⟩ := mapM_lookup_eq_ok hfound
  exact ⟨hlookup, rfl⟩

/-- Under the name of a field stands what was found for the last field of that name. -/
theorem rawOf_parameters (h : dec.parameters r fields = .ok raw) (f : Field) :
    rawOf raw f =
      ((Table.lastOf? f.wireName (dec.findings r fields)).map fun texts =>
        Value.list (texts.map .text)).getD .null := by
  rw [rawOf, (parameters_eq_ok h).2, Table.get?_mapValues, Table.get?_ofList]

/-- **The raw value of a field is what was found for a field of its name.** -/
theorem exists_rawOf_parameters (h : dec.parameters r fields = .ok raw) (hf : f ∈ fields) :
    ∃ g ∈ fields, g.wireName = f.wireName ∧ ∃ texts, dec.lookup r g = .ok texts ∧
      rawOf raw f = rawValue texts := by
  have hlookup := (parameters_eq_ok h).1
  have hraw := rawOf_parameters h f
  cases hlast : Table.lastOf? f.wireName (dec.findings r fields) with
  | some texts =>
    rw [hlast] at hraw
    obtain ⟨hmem, hne⟩ := List.mem_filter.1 (Table.mem_of_lastOf? hlast)
    obtain ⟨g, hg, heq⟩ := List.mem_map.1 hmem
    obtain ⟨hname, rfl⟩ := Prod.mk.inj heq
    refine ⟨g, hg, hname, _, hlookup g hg, ?_⟩
    rw [hraw, rawValue, if_neg (by simpa using hne)]
    rfl
  | none =>
    rw [hlast] at hraw
    refine ⟨f, hf, rfl, _, hlookup f hf, ?_⟩
    -- had anything been found for the field itself, something would stand under its name
    have hempty : (dec.found r f).isEmpty = true := by
      have hnot : (f.wireName, dec.found r f) ∉ dec.findings r fields :=
        Table.not_mem_of_lastOf? hlast _
      simpa [findings, List.mem_filter, hf] using
        fun hne => hnot (List.mem_filter.2 ⟨List.mem_map.2 ⟨f, hf, rfl⟩, hne⟩)
    rw [hraw, rawValue, if_pos hempty]
    rfl

/-- Only what is found for the fields of a name stands under it. -/
theorem rawOf_congr (h : dec.parameters r fields = .ok raw)
    (h' : dec.parameters r' fields = .ok raw')
    (hsame : ∀ g ∈ fields, g.wireName = f.wireName → dec.found r g = dec.found r' g) :
    rawOf raw f = rawOf raw' f := by
  have hfilter : (dec.findings r fields).filter (fun p => p.1 = f.wireName) =
      (dec.findings r' fields).filter fun p => p.1 = f.wireName := by
    clear h h'
    unfold findings
    induction fields with
    | nil => rfl
    | cons g rest ih =>
      have hrest := ih fun g hg => hsame g (List.mem_cons_of_mem _ hg)
      rw [List.filter_filter, List.filter_filter] at hrest ⊢
      rw [List.map_cons, List.map_cons, List.filter_cons, List.filter_cons, hrest]
      by_cases hname : g.wireName = f.wireName
      · rw [hsame g List.mem_cons_self hname]
      · simp only [hname, decide_false, Bool.false_and, Bool.false_eq_true, if_false]
  rw [rawOf_parameters h, rawOf_parameters h', Table.lastOf?, Table.lastOf?, hfilter]

/-! ## Decoding what is gathered -/

theorem ofExcept_bind {α β : Type} (x : Except Error α) (f : α → Except Error β) :
    Action.ofExcept (x >>= f) = Action.ofExcept x >>= fun y => Action.ofExcept (f y) := by
  cases x with
  | ok x => rfl
  | error e => rfl

/-- A visit that needs no state leaves it as it was. -/
theorem mapM_ofExcept {α β : Type} (f : α → Except Error β) (xs : List α) :
    xs.mapM (fun x => Action.ofExcept (f x)) = Action.ofExcept (xs.mapM f) := by
  induction xs with
  | nil => rfl
  | cons x xs ih =>
    rw [List.mapM_cons, List.mapM_cons, ih, ofExcept_bind]
    congr 1
    funext y
    rw [ofExcept_bind]
    rfl

variable {a : TypeExpr} {t : Descriptor}

/-- **What is gathered is decoded.** -/
theorem bind_eq (ht : describe a = .ok t) (hobject : dec.env.kind t.nonNull = .object)
    (hfields : dec.env.fields t.nonNull = .ok fields) (r : Http.Request) :
    dec.bind r a = Action.ofExcept (dec.parameters r fields) >>= dec.decode a := by
  have hnull := ne_null_of_object ht hobject
  have hfields' : dec.env.fields t = .ok fields := hfields
  have hfound : (fields.mapM fun f => do
        return (f.wireName, ← Action.ofExcept (dec.lookup r f))) =
      Action.ofExcept (fields.mapM fun f => do return (f.wireName, ← dec.lookup r f)) := by
    rw [← mapM_ofExcept]
    refine mapM_congr fun f _ => ?_
    rw [ofExcept_bind]
    rfl
  have hcollect : dec.collect r a = Action.ofExcept (fields.mapM fun f => do
        return (f.wireName, ← dec.lookup r f)) >>= fun found =>
      pure (Table.ofList (found.filter fun p => !p.2.isEmpty)) := by
    unfold collect
    rw [ht, ← hfound]
    show (Action.ofExcept (dec.env.fields t) >>= _) = _
    rw [hfields']
    rfl
  rw [bind, if_neg hnull, hcollect, parameters, ofExcept_bind, bind_assoc, bind_assoc]
  rfl

/-! ## States -/

/-- The state after a field has been bound to texts: converters have been asked for, and no stream
has been read. -/
def stateAfter (dec : Decoder) (f : Field) (s : State) : State :=
  match dec.env.kind f.type with
  | .stream => s
  | .array =>
    match dec.env.item f.type.nonNull with
    | .error _ => s
    | .ok item =>
      if dec.env.kind item = .stream then s else ((dec.env.converterFor dec.budget item).run s).2
  | _ => ((dec.env.converterFor dec.budget f.type).run s).2

/-- A text is no stream. -/
theorem adapt_text_ne_ok {name text : String} {d : Descriptor} {v : Value} :
    (dec.adapt name d (.text text)).run s ≠ (.ok v, s') := by
  intro h
  cases h

/-- Of values that are all texts the first is a text, unless there is none. -/
theorem exists_text_of_first {raw : Value} (hraw : ∀ w ∈ raw.items, ∃ text, w = .text text)
    (hne : raw.first ≠ .null) : ∃ text, raw.first = .text text := by
  obtain ⟨rest, hitems⟩ := Value.items_eq_first_cons hne
  exact hraw _ (hitems ▸ List.mem_cons_self)

/-- **What a field is bound to does not show in the state**, if only texts are bound. -/
theorem Binds.state {raw v : Value} (hraw : ∀ w ∈ raw.items, ∃ text, w = .text text)
    (h : Binds dec f raw s (.ok v) s') : s' = dec.stateAfter f s := by
  unfold stateAfter
  cases h with
  | stream hkind h =>
    rw [hkind]
    cases h with
    | absent => rfl
    | adapted hne h =>
      -- a text is never adapted to a stream, so a stream field that is bound was absent
      obtain ⟨text, htext⟩ := exists_text_of_first hraw hne
      rw [htext] at h
      exact absurd h adapt_text_ne_ok
  | array hkind h =>
    rw [hkind]
    cases h with
    | collected hitem hitems =>
      simp only [hitem]
      cases hitems with
      | streams hstream h =>
        -- so for a sequence of streams: it is bound to the empty list alone
        rw [if_pos hstream]
        cases h with
        | all h =>
          refine h.state_eq fun w hw s₁ y s₂ hadapted => ?_
          obtain ⟨text, rfl⟩ := hraw w hw
          exact absurd hadapted adapt_text_ne_ok
      | converted hne hconverter h =>
        rw [if_neg hne, hconverter]
        cases h with
        | all h => exact h.state_eq fun _ _ _ _ _ hconverted => hconverted.1
  | scalar hstream harray h =>
    have hconverter : s' = ((dec.env.converterFor dec.budget f.type).run s).2 := by
      -- any other field asks for its converter once, and conversion leaves the state as it is
      cases h with
      | absent hconverter | converted hconverter => rw [hconverter]
    split
    · next hkind => exact absurd hkind hstream
    · next hkind => exact absurd hkind harray
    · exact hconverter

/-- The state that binding fields leaves behind does not depend on the texts. -/
theorem Each.arguments_state {arguments : List (String × Value)}
    (h : Each (BindsArgument dec raw) fields s arguments s')
    (hraw : ∀ f ∈ fields, ∀ w ∈ (rawOf raw f).items, ∃ text, w = .text text) :
    s' = fields.foldl (fun s f => dec.stateAfter f s) s := by
  induction h with
  | nil => rfl
  | cons hx _ ih =>
    have hs := Binds.state (hraw _ List.mem_cons_self) hx.2
    rw [ih fun g hg => hraw g (List.mem_cons_of_mem _ hg), hs, List.foldl_cons]

/-! ## Two requests -/

/-- Only texts are found in a request. -/
theorem exists_text_of_parameters (h : dec.parameters r fields = .ok raw) (hf : f ∈ fields) :
    ∀ w ∈ (rawOf raw f).items, ∃ text, w = .text text := by
  obtain ⟨g, -, -, texts, -, hraw⟩ := exists_rawOf_parameters h hf
  intro w hw
  rw [hraw, rawValue] at hw
  split at hw
  · cases hw
  · obtain ⟨text, -, rfl⟩ := List.mem_map.1 hw
    exact ⟨text, rfl⟩

/-- A field with one raw value in two requests is bound alike, whatever the fields before it
hold. -/
theorem BindsAt.congr (h : dec.parameters r fields = .ok raw)
    (h' : dec.parameters r' fields = .ok raw') {place : Nat} (hf : fields[place]? = some f)
    (hsame : rawOf raw f = rawOf raw' f) {result result' : Except Error Value}
    (hbinds : BindsAt dec fields raw s place result)
    (hbinds' : BindsAt dec fields raw' s place result') : result = result' := by
  obtain ⟨g, arguments, s₁, s₂, hg, hbefore, hresult⟩ := hbinds
  obtain ⟨g', arguments', s₁', s₂', hg', hbefore', hresult'⟩ := hbinds'
  obtain rfl := Option.some.inj (hf.symm.trans hg)
  obtain rfl := Option.some.inj (hf.symm.trans hg')
  have hs := Each.arguments_state hbefore fun g hg =>
    exists_text_of_parameters h (List.mem_of_mem_take hg)
  have hs' := Each.arguments_state hbefore' fun g hg =>
    exists_text_of_parameters h' (List.mem_of_mem_take hg)
  -- both runs bind the field in the same state, and binding is a function
  have hrun := run_field_iff.2 hresult
  have hrun' := run_field_iff.2 hresult'
  rw [hs, hsame] at hrun
  rw [hs'] at hrun'
  exact congrArg Prod.fst (hrun.symm.trans hrun')

/-- An argument of the constructor is what the field in its place is bound to. -/
theorem Each.bindsAt {arguments : List (String × Value)}
    (h : Each (BindsArgument dec raw) fields s arguments s')
    {place : Nat} {key : String} {v : Value}
    (hargument : arguments[place]? = some (key, v)) : BindsAt dec fields raw s place (.ok v) := by
  induction h generalizing place with
  | nil => cases hargument
  | @cons f rest argument more s s₁ s₂ hx _ ih =>
    cases place with
    | zero =>
      cases hargument
      exact bindsAt_zero hx.2
    | succ place => exact (ih hargument).succ hx.2

/-- A record is made from the arguments that its fields are bound to. -/
theorem Decodes.arguments {d : Descriptor} {result : Except Error Value} {v : Value}
    (h : Decodes dec d fields raw s result s') (hok : result = .ok v) :
    ∃ arguments s₁, Each (BindsArgument dec raw) fields s arguments s₁ ∧
      dec.env.construct d.origin (Table.ofList arguments).entries = .ok v := by
  cases h with
  | constructed h =>
    cases h with
    | all heach => exact ⟨_, _, heach, hok⟩
  | failed => cases hok

/-- Fields of one name on the wire have one location. -/
def Apart (fields : List Field) : Prop :=
  ∀ f ∈ fields, ∀ g ∈ fields, f.wireName = g.wireName → f.location = g.location

/-- Fields with distinct wire names share no location. -/
theorem apart_of_nodup (h : (fields.map (·.wireName)).Nodup) : Apart fields := by
  intro f hf g hg hname
  rw [List.inj_on_of_nodup_map h hf hg hname]

/-- **Where fields of one name have one location, locations do not interfere.** The raw value of a
field comes from its own location. A record that is bound is made from what its fields are bound to.
And two requests that agree on what stands under the name of a field in its location bind it alike,
whatever else they hold. -/
theorem bind_own_location (dec : Decoder) (ht : describe a = .ok t)
    (hobject : dec.env.kind t.nonNull = .object) (hfields : dec.env.fields t.nonNull = .ok fields)
    (hapart : Apart fields) :
    (∀ r raw, dec.parameters r fields = .ok raw → ∀ f ∈ fields, ∃ g ∈ fields,
      g.wireName = f.wireName ∧ g.location = f.location ∧
      ∃ texts, dec.lookup r g = .ok texts ∧ rawOf raw f = rawValue texts) ∧
    (∀ r s v s', (dec.bind r a).run s = (.ok v, s') → ∃ raw arguments,
      dec.parameters r fields = .ok raw ∧ arguments.map (·.1) = fields.map (·.key) ∧
      dec.env.construct t.nonNull.origin (Table.ofList arguments).entries = .ok v ∧
      ∀ place key w, arguments[place]? = some (key, w) →
        BindsAt dec fields raw s place (.ok w)) ∧
    ∀ r r' raw raw', dec.parameters r fields = .ok raw → dec.parameters r' fields = .ok raw' →
      ∀ place f, fields[place]? = some f →
      r.valuesAt f.location f.wireName = r'.valuesAt f.location f.wireName →
      ∀ s result result', BindsAt dec fields raw s place result →
        BindsAt dec fields raw' s place result' → result = result' := by
  refine ⟨?_, ?_, ?_⟩
  · intro r raw h f hf
    obtain ⟨g, hg, hname, htexts⟩ := exists_rawOf_parameters h hf
    exact ⟨g, hg, hname, hapart g hg f hf hname, htexts⟩
  · intro r s v s' hrun
    rw [bind_eq ht hobject hfields, run_bind_iff] at hrun
    rcases hrun with ⟨raw, s₁, hraw, hrun⟩ | ⟨e, -, hfails⟩
    · obtain ⟨h, rfl⟩ := run_ofExcept_iff.1 hraw
      rw [decode_eq ht hobject] at hrun
      obtain ⟨arguments, s₂, heach, hmade⟩ := ((run_decodeRecord_iff hfields).1 hrun).arguments rfl
      exact ⟨raw, arguments, h, keys_of_each heach, hmade,
        fun place key w hargument => Each.bindsAt heach hargument⟩
    · cases hfails
  · intro r r' raw raw' h h' place f hf hsame s result result' hbinds hbinds'
    have hmem : f ∈ fields := List.mem_of_getElem? hf
    refine BindsAt.congr h h' hf ?_ hbinds hbinds'
    refine rawOf_congr h h' fun g hg hname => ?_
    -- a field of the same name has the same location, where the requests agree
    have hlocation : g.location = f.location := hapart g hg f hmem hname
    rw [found, found, lookup_eq, lookup_eq, hname, hlocation, hsame]

open ApiShape.Sample

namespace Sample

/-- A page of the query and a tag of the headers, under the given names. -/
def pages (page tag : String) : Decoder where
  env := ⟨[
    dataclass "Ids" [
      { name := "page", type := .annotated text [.parameter .query (some page) none] },
      { name := "tag", type := .annotated text [.parameter .header (some tag) none] }]]⟩

/-- A request with the identifier 1 in its query. -/
def request (headers : List (String × String)) : Http.Request :=
  requestWith [("id", ["1"])] headers

def ids (page tag : String) : Value :=
  instanceOf "Ids" [("page", .text page), ("tag", .text tag)]

end Sample

open Decoder.Sample

/-- With names of their own, a page and a tag are bound apart. -/
theorem bind_own_location_ids :
    let type : TypeExpr := classExpr "Ids"
    let t : Descriptor := classType "Ids"
    let dec := pages "id" "tag"
    let r := request [("tag", "2")]
    let r' := request [("tag", "3")]
    ∃ fields raw raw', describe type = .ok t ∧ dec.env.kind t.nonNull = .object ∧
      dec.env.fields t.nonNull = .ok fields ∧ Apart fields ∧
      dec.parameters r fields = .ok raw ∧ dec.parameters r' fields = .ok raw' ∧
      ((dec.bind r type).run textual).1 = .ok (ids "1" "2") ∧
      ((dec.bind r' type).run textual).1 = .ok (ids "1" "3") ∧
      ∀ result result', BindsAt dec fields raw textual 0 result →
        BindsAt dec fields raw' textual 0 result' → result = result' := by
  intro type t dec r r'
  obtain ⟨fields, raw, raw', f, hfields, hnames, hraw, hraw', hf, hsame⟩ :
      ∃ fields raw raw' f, dec.env.fields t.nonNull = .ok fields ∧
        fields.map (·.wireName) = ["id", "tag"] ∧ dec.parameters r fields = .ok raw ∧
        dec.parameters r' fields = .ok raw' ∧ fields[0]? = some f ∧
        r.valuesAt f.location f.wireName = r'.valuesAt f.location f.wireName :=
    ⟨_, _, _, _, rfl, rfl, rfl, rfl, rfl, rfl⟩
  have hapart : Apart fields := apart_of_nodup (by rw [hnames]; decide)
  have hlocations := bind_own_location dec (a := type) (t := t) rfl rfl hfields hapart
  exact ⟨fields, raw, raw', rfl, rfl, hfields, hapart, hraw, hraw', rfl, rfl,
    hlocations.2.2 r r' raw raw' hraw hraw' 0 f hf hsame textual⟩

/-- **Under one name, locations interfere**: two requests hold the same in the query, from which
pages come, but the page is bound to what one of them has in a header. -/
theorem locations_interfere :
    let type : TypeExpr := classExpr "Ids"
    let t : Descriptor := classType "Ids"
    let dec := pages "id" "id"
    let r := request []
    let r' := request [("id", "2")]
    ∃ fields f, describe type = .ok t ∧ dec.env.kind t.nonNull = .object ∧
      dec.env.fields t.nonNull = .ok fields ∧ fields[0]? = some f ∧ f.name = "page" ∧
      r.valuesAt f.location f.wireName = r'.valuesAt f.location f.wireName ∧
      ((dec.bind r type).run textual).1 = .ok (ids "1" "1") ∧
      ((dec.bind r' type).run textual).1 = .ok (ids "2" "2") :=
  ⟨_, _, rfl, rfl, rfl, rfl, rfl, rfl, rfl, rfl⟩

end Decoder

end ApiShape
