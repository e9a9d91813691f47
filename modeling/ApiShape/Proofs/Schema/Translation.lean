import Mathlib.Data.List.Forall2
import Mathlib.Logic.Relation
import ApiShape.Proofs.Schema.Layer

/-!
# What the schema of a type is

The specification of schema synthesis, one level at a time and without a state. `known` gives the
schemas that need no synthesis, those of registered types and of enumerations, and `names` the names
of records and sums.

* **`Refers`** — the types that one level of a type refers to, nullability stripped.
* **`Translates`** — the schema that stands for a type inside another one: a reference for a record
  or a sum, the schema in place for all else.
* **`OneLevel`** — the body of a record or a sum, made from the schemas that stand for the types it
  refers to. `Body` is the one such schema that synthesis makes.
* **`Complete`** — every name has a body. What stands for a schema under complete names refers only
  to what does so as well (`Complete.exists_translates`).

Each of them is tied to `Environment.layer` once (`refers_iff`, `translates_iff`, `Body.oneLevel`).
-/

namespace ApiShape

open Blueprint (isVisible objectSchema)

/-! ## The relations -/

/-- One level of the type refers to the other type. A type with a known schema refers to none,
unless it is a wrapper. -/
inductive Refers (env : Environment) (known : Descriptor → Option Schema) (d : Descriptor) :
    Descriptor → Prop where
  | wrapped {inner : Descriptor} (hkind : env.kind d = .wrapper) (h : env.unwrap d = .ok inner) :
      Refers env known d inner.nonNull
  | item {item : Descriptor} (hkind : env.kind d = .array) (hknown : known d.nonNull = none)
      (h : env.item d.nonNull = .ok item) : Refers env known d item.nonNull
  | value {value : Descriptor} (hkind : env.kind d = .map) (hknown : known d.nonNull = none)
      (h : env.item d.nonNull = .ok value) : Refers env known d value.nonNull
  | field {fields : List Field} {f : Field} (hkind : env.kind d = .object)
      (hknown : known d.nonNull = none) (h : env.fields d = .ok fields) (hf : f ∈ fields)
      (hvisible : isVisible f = true) : Refers env known d f.type.nonNull
  | variant {variants : List Descriptor} {variant : Descriptor} (hkind : env.kind d = .sum)
      (hknown : known d.nonNull = none) (h : env.variants d = .ok variants)
      (hvariant : variant ∈ variants) : Refers env known d variant.nonNull

/-- The type is a record or a sum. -/
def Environment.IsNamed (env : Environment) (d : Descriptor) : Prop :=
  env.kind d = .object ∨ env.kind d = .sum

instance (env : Environment) (d : Descriptor) : Decidable (env.IsNamed d) :=
  inferInstanceAs (Decidable (_ ∨ _))

/-- The schema stands for the type inside another schema. -/
inductive Translates (env : Environment) (known : Descriptor → Option Schema)
    (names : Descriptor → Option String) : Descriptor → Schema → Prop where
  | stream {d : Descriptor} (hkind : env.kind d = .stream) :
      Translates env known names d .binary
  | wrapper {d inner : Descriptor} {schema : Schema} (hkind : env.kind d = .wrapper)
      (h : env.unwrap d = .ok inner) (hinner : Translates env known names inner schema) :
      Translates env known names d schema
  | inline {d : Descriptor} {schema : Schema} (hstream : env.kind d ≠ .stream)
      (hwrapper : env.kind d ≠ .wrapper) (hknown : known d.nonNull = some schema) :
      Translates env known names d schema
  | array {d item : Descriptor} {schema : Schema} (hkind : env.kind d = .array)
      (hknown : known d.nonNull = none) (h : env.item d.nonNull = .ok item)
      (hitem : Translates env known names item schema) :
      Translates env known names d (.array schema)
  | map {d value : Descriptor} {schema : Schema} (hkind : env.kind d = .map)
      (hknown : known d.nonNull = none) (h : env.item d.nonNull = .ok value)
      (hvalue : Translates env known names value schema) :
      Translates env known names d (.map schema)
  | named {d : Descriptor} {name : String} (hkind : env.IsNamed d)
      (hknown : known d.nonNull = none) (hname : names d.nonNull = some name) :
      Translates env known names d (.ref name)

/-- The schema is the body of the record or sum. The properties of a record are its visible fields
by wire name, the last one of a name counting; required are those that do not admit null. -/
inductive OneLevel (env : Environment) (known : Descriptor → Option Schema)
    (names : Descriptor → Option String) (d : Descriptor) : Schema → Prop where
  | sum {variants : List Descriptor} {schemas : List Schema} (hkind : env.kind d = .sum)
      (hknown : known d.nonNull = none) (h : env.variants d = .ok variants)
      (hschemas : List.Forall₂ (Translates env known names) variants schemas) :
      OneLevel env known names d (.oneOf schemas)
  | object {fields : List Field} {schemas : List Schema} {properties : List (String × Schema)}
      {required : List String} (hkind : env.kind d = .object) (hknown : known d.nonNull = none)
      (h : env.fields d = .ok fields)
      (hschemas : List.Forall₂ (fun f schema => Translates env known names f.type schema)
        (fields.filter isVisible) schemas)
      (hkeys : (properties.map (·.1)).Nodup)
      (hproperties : ∀ wireName, Table.lookup wireName properties =
        Table.lastOf? wireName (((fields.filter isVisible).map (·.wireName)).zip schemas))
      (hrequired : required =
        ((fields.filter isVisible).filter (!·.type.nullable)).map (·.wireName)) :
      OneLevel env known names d (.object properties required)

variable {env : Environment} {known : Descriptor → Option Schema}
  {names names' : Descriptor → Option String} {d e : Descriptor} {schema schema' : Schema}

/-! ## The relations by layers -/

/-- The types that a layer refers to. -/
def Layer.types : Layer → List Descriptor
  | .around _ inner => [inner]
  | .named (.ok (types, _)) => types
  | _ => []

theorem layer_nonNull : env.layer known d.nonNull = env.layer known d := rfl

/-- The cases of a layer with what they know of the type. -/
inductive LayerOf (env : Environment) (known : Descriptor → Option Schema) (d : Descriptor) :
    Layer → Prop where
  | stream (hkind : env.kind d = .stream) : LayerOf env known d (.inline .binary)
  | wrapper (hkind : env.kind d = .wrapper) :
      LayerOf env known d (.ofInner id (env.unwrap d))
  | inline {schema : Schema} (hstream : env.kind d ≠ .stream) (hwrapper : env.kind d ≠ .wrapper)
      (hknown : known d.nonNull = some schema) : LayerOf env known d (.inline schema)
  | array (hkind : env.kind d = .array) (hknown : known d.nonNull = none) :
      LayerOf env known d (.ofInner .array (env.item d.nonNull))
  | map (hkind : env.kind d = .map) (hknown : known d.nonNull = none) :
      LayerOf env known d (.ofInner .map (env.item d.nonNull))
  | object (hkind : env.kind d = .object) (hknown : known d.nonNull = none) :
      LayerOf env known d (.named (env.recordContent d))
  | sum (hkind : env.kind d = .sum) (hknown : known d.nonNull = none) :
      LayerOf env known d (.named (env.sumContent d))
  | refused (hkind : env.kind d = .leaf ∨ env.kind d = .enum ∨ env.kind d = .unknown)
      (hknown : known d.nonNull = none) :
      LayerOf env known d (.refused (.unhandled d.nonNull none))

/-- The cases of a layer are all there are. -/
theorem layerOf_layer (env : Environment) (known : Descriptor → Option Schema) (d : Descriptor) :
    LayerOf env known d (env.layer known d) := by
  rw [Environment.layer]
  cases hkind : env.kind d with
  | stream => exact .stream hkind
  | wrapper => exact .wrapper hkind
  | _ =>
    cases hknown : known d.nonNull with
    | some schema => exact .inline (by simp [hkind]) (by simp [hkind]) hknown
    | none =>
      first
        | exact .array hkind hknown
        | exact .map hkind hknown
        | exact .object hkind hknown
        | exact .sum hkind hknown
        | exact .refused (by simp [hkind]) hknown

/-- The cases of a layer exclude each other. -/
theorem LayerOf.layer_eq {layer : Layer} (h : LayerOf env known d layer) :
    env.layer known d = layer := by
  cases h with
  | stream hkind | wrapper hkind => simp only [Environment.layer, hkind]
  | inline hstream hwrapper hknown =>
    rw [Environment.layer]
    cases hkind : env.kind d <;> simp_all
  | array hkind hknown | map hkind hknown | object hkind hknown | sum hkind hknown =>
    simp only [Environment.layer, hkind, hknown]
  | refused hkind hknown =>
    rw [Environment.layer]
    rcases hkind with hkind | hkind | hkind <;> simp only [hkind, hknown]

/-- One level refers to the types of its layer. -/
theorem refers_iff :
    Refers env known d e ↔ ∃ t ∈ (env.layer known d).types, e = t.nonNull := by
  constructor
  · -- each way to refer to a type is one kind of layer, whose types are what it holds
    intro h
    cases h with
    | wrapped hkind h =>
      rw [(LayerOf.wrapper hkind).layer_eq, h]
      exact ⟨_, List.mem_singleton_self _, rfl⟩
    | item hkind hknown h =>
      rw [(LayerOf.array hkind hknown).layer_eq, h]
      exact ⟨_, List.mem_singleton_self _, rfl⟩
    | value hkind hknown h =>
      rw [(LayerOf.map hkind hknown).layer_eq, h]
      exact ⟨_, List.mem_singleton_self _, rfl⟩
    | field hkind hknown h hf hvisible =>
      rw [(LayerOf.object hkind hknown).layer_eq, Environment.recordContent, h]
      exact ⟨_, List.mem_map_of_mem (List.mem_filter.2 ⟨hf, hvisible⟩), rfl⟩
    | variant hkind hknown h hvariant =>
      rw [(LayerOf.sum hkind hknown).layer_eq, Environment.sumContent, h]
      exact ⟨_, hvariant, rfl⟩
  · -- conversely the layer is told apart first, as each of its kinds has its own sequence of types
    rintro ⟨t, ht, rfl⟩
    have hlayer := layerOf_layer env known d
    generalize env.layer known d = layer at hlayer ht
    cases hlayer with
    | stream | inline | refused => simp [Layer.types] at ht
    | wrapper hkind =>
      cases h : env.unwrap d with
      | error e => simp [h, Layer.ofInner, Layer.types] at ht
      | ok inner =>
        obtain rfl : t = inner := by simpa [h, Layer.ofInner, Layer.types] using ht
        exact .wrapped hkind h
    | array hkind hknown =>
      cases h : env.item d.nonNull with
      | error e => simp [h, Layer.ofInner, Layer.types] at ht
      | ok item =>
        obtain rfl : t = item := by simpa [h, Layer.ofInner, Layer.types] using ht
        exact .item hkind hknown h
    | map hkind hknown =>
      cases h : env.item d.nonNull with
      | error e => simp [h, Layer.ofInner, Layer.types] at ht
      | ok value =>
        obtain rfl : t = value := by simpa [h, Layer.ofInner, Layer.types] using ht
        exact .value hkind hknown h
    | object hkind hknown =>
      cases h : env.fields d with
      | error e => simp [Environment.recordContent, h, Except.map, Layer.types] at ht
      | ok fields =>
        simp only [Environment.recordContent, h, Except.map, Layer.types, List.mem_map,
          List.mem_filter] at ht
        obtain ⟨f, ⟨hf, hvisible⟩, rfl⟩ := ht
        exact .field hkind hknown h hf hvisible
    | sum hkind hknown =>
      cases h : env.variants d with
      | error e => simp [Environment.sumContent, h, Except.map, Layer.types] at ht
      | ok variants =>
        simp only [Environment.sumContent, h, Except.map, Layer.types] at ht
        exact .variant hkind hknown h ht

/-- A list of types that is closed under references holds all that is within reach of its types. -/
theorem mem_of_reach {ds : List Descriptor}
    (hclosed : ∀ d ∈ ds, ∀ t ∈ (env.layer known d).types, t.nonNull ∈ ds)
    (hreach : Relation.ReflTransGen (Refers env known) d e) (hd : d ∈ ds) : e ∈ ds := by
  induction hreach with
  | refl => exact hd
  | tail _ hrefers ih =>
    obtain ⟨t, ht, rfl⟩ := refers_iff.1 hrefers
    exact hclosed _ ih t ht

/-- What a schema inside another one looks like, by layers. -/
theorem translates_iff :
    Translates env known names d schema ↔
      match env.layer known d with
      | .inline found => schema = found
      | .around wrap inner => ∃ t, Translates env known names inner t ∧ schema = wrap t
      | .named _ => ∃ name, names d.nonNull = some name ∧ schema = .ref name
      | .refused _ => False := by
  constructor
  · -- each case has a layer of its own
    intro h
    cases h with
    | stream hkind => rw [(LayerOf.stream hkind).layer_eq]
    | wrapper hkind h hinner =>
      rw [(LayerOf.wrapper hkind).layer_eq, h]
      exact ⟨schema, hinner, rfl⟩
    | inline hstream hwrapper hknown => rw [(LayerOf.inline hstream hwrapper hknown).layer_eq]
    | array hkind hknown h hitem =>
      rw [(LayerOf.array hkind hknown).layer_eq, h]
      exact ⟨_, hitem, rfl⟩
    | map hkind hknown h hvalue =>
      rw [(LayerOf.map hkind hknown).layer_eq, h]
      exact ⟨_, hvalue, rfl⟩
    | named hkind hknown hname =>
      rcases hkind with hkind | hkind
      · rw [(LayerOf.object hkind hknown).layer_eq]
        exact ⟨_, hname, rfl⟩
      · rw [(LayerOf.sum hkind hknown).layer_eq]
        exact ⟨_, hname, rfl⟩
  · -- each layer comes from a case
    intro h
    have hlayer := layerOf_layer env known d
    generalize env.layer known d = layer at hlayer h
    cases hlayer with
    | stream hkind => exact h ▸ .stream hkind
    | wrapper hkind =>
      cases hinner : env.unwrap d with
      | error e => simp [hinner, Layer.ofInner] at h
      | ok inner =>
        rw [hinner] at h
        obtain ⟨t, ht, rfl⟩ := h
        exact .wrapper hkind hinner ht
    | inline hstream hwrapper hknown => exact h ▸ .inline hstream hwrapper hknown
    | array hkind hknown =>
      cases hitem : env.item d.nonNull with
      | error e => simp [hitem, Layer.ofInner] at h
      | ok item =>
        rw [hitem] at h
        obtain ⟨t, ht, rfl⟩ := h
        exact .array hkind hknown hitem ht
    | map hkind hknown =>
      cases hvalue : env.item d.nonNull with
      | error e => simp [hvalue, Layer.ofInner] at h
      | ok value =>
        rw [hvalue] at h
        obtain ⟨t, ht, rfl⟩ := h
        exact .map hkind hknown hvalue ht
    | object hkind hknown =>
      obtain ⟨name, hname, rfl⟩ := h
      exact .named (.inl hkind) hknown hname
    | sum hkind hknown =>
      obtain ⟨name, hname, rfl⟩ := h
      exact .named (.inr hkind) hknown hname
    | refused => exact h.elim

/-- Nullability does not matter for what stands for a type. -/
theorem translates_nonNull :
    Translates env known names d.nonNull schema ↔ Translates env known names d schema := by
  rw [translates_iff, layer_nonNull, translates_iff, Descriptor.nonNull_nonNull]

/-- The types with a body of their own are records and sums. -/
theorem layer_named {content : Except Error (List Descriptor × (List Schema → Schema))}
    (h : env.layer known d = .named content) :
    known d.nonNull = none ∧
      (env.kind d = .object ∧ content = env.recordContent d ∨
        env.kind d = .sum ∧ content = env.sumContent d) := by
  have hlayer := layerOf_layer env known d
  generalize env.layer known d = layer at hlayer h
  cases hlayer with
  | stream | inline | refused => cases h
  | wrapper => cases hinner : env.unwrap d <;> simp [hinner, Layer.ofInner] at h
  | array | map => cases hinner : env.item d.nonNull <;> simp [hinner, Layer.ofInner] at h
  | object hkind hknown =>
    cases h
    exact ⟨hknown, .inl ⟨hkind, rfl⟩⟩
  | sum hkind hknown =>
    cases h
    exact ⟨hknown, .inr ⟨hkind, rfl⟩⟩

/-- Only records and sums have named layers. -/
theorem isNamed_of_layer {content : Except Error (List Descriptor × (List Schema → Schema))}
    (h : env.layer known d = .named content) : env.IsNamed d := by
  obtain ⟨-, ⟨hkind, -⟩ | ⟨hkind, -⟩⟩ := layer_named h
  · exact .inl hkind
  · exact .inr hkind

/-- A record or a sum has a body or a known schema. -/
theorem Environment.IsNamed.layer (h : env.IsNamed d) :
    (∃ schema, env.layer known d = .inline schema) ∨
      ∃ content, env.layer known d = .named content := by
  have hlayer := layerOf_layer env known d
  generalize env.layer known d = layer at hlayer
  cases hlayer with
  | inline => exact .inl ⟨_, rfl⟩
  | object | sum => exact .inr ⟨_, rfl⟩
  | stream hkind | wrapper hkind | array hkind | map hkind =>
    rcases h with h | h <;> rw [hkind] at h <;> cases h
  | refused hkind =>
    rcases h with h | h <;> rw [h] at hkind <;> simp at hkind

/-! ## More names -/

/-- Induction on a schema inside another one, by layers. -/
theorem Translates.layers {motive : Descriptor → Schema → Prop}
    (h : Translates env known names d schema)
    (inline : ∀ d found, env.layer known d = .inline found → motive d found)
    (around : ∀ d wrap inner t, env.layer known d = .around wrap inner →
      Translates env known names inner t → motive inner t → motive d (wrap t))
    (named : ∀ d content n, env.layer known d = .named content → names d.nonNull = some n →
      motive d (.ref n)) : motive d schema := by
  induction h with
  | stream hkind => exact inline _ _ (LayerOf.stream hkind).layer_eq
  | inline hstream hwrapper hknown =>
    exact inline _ _ (LayerOf.inline hstream hwrapper hknown).layer_eq
  | wrapper hkind h hinner ih =>
    -- a wrapper puts nothing around what it wraps
    refine around _ id _ _ ?_ hinner ih
    rw [(LayerOf.wrapper hkind).layer_eq, h]
    rfl
  | array hkind hknown h hitem ih =>
    refine around _ _ _ _ ?_ hitem ih
    rw [(LayerOf.array hkind hknown).layer_eq, h]
    rfl
  | map hkind hknown h hvalue ih =>
    refine around _ _ _ _ ?_ hvalue ih
    rw [(LayerOf.map hkind hknown).layer_eq, h]
    rfl
  | named hkind hknown hname =>
    rcases hkind with hkind | hkind
    · exact named _ _ _ (LayerOf.object hkind hknown).layer_eq hname
    · exact named _ _ _ (LayerOf.sum hkind hknown).layer_eq hname

/-- A schema inside another one stays what it is when more types get names. -/
theorem Translates.mono
    (hnames : ∀ (d : Descriptor) n, names d.nonNull = some n → names' d.nonNull = some n)
    (h : Translates env known names d schema) : Translates env known names' d schema := by
  refine h.layers (fun d found hlayer => ?_) (fun d wrap inner t hlayer _ ih => ?_)
    fun d content n hlayer hname => ?_
  · exact translates_iff.2 (by rw [hlayer])
  · exact translates_iff.2 (by rw [hlayer]; exact ⟨t, ih, rfl⟩)
  · exact translates_iff.2 (by rw [hlayer]; exact ⟨n, hnames d n hname, rfl⟩)

/-- A type stands for one schema at most. -/
theorem Translates.unique (h : Translates env known names d schema) :
    ∀ {schema'}, Translates env known names d schema' → schema = schema' := by
  refine h.layers (motive := fun d schema => ∀ {schema'}, Translates env known names d schema' →
    schema = schema') ?_ ?_ ?_
  · intro d found hlayer schema' h'
    rw [translates_iff, hlayer] at h'
    exact h'.symm
  · intro d wrap inner t hlayer _ ih schema' h'
    rw [translates_iff, hlayer] at h'
    obtain ⟨t', ht', rfl⟩ := h'
    rw [ih ht']
  · intro d content n hlayer hname schema' h'
    rw [translates_iff, hlayer] at h'
    obtain ⟨n', hname', rfl⟩ := h'
    rw [hname, Option.some.injEq] at hname'
    rw [hname']

/-! ## Bodies as synthesis makes them

`OneLevel` fixes the properties of a record up to their order. `Body` is the one schema that
synthesis makes, so that two runs can be compared. -/

/-- The schema is the body that synthesis makes for the record or sum. -/
def Body (env : Environment) (known : Descriptor → Option Schema)
    (names : Descriptor → Option String) (d : Descriptor) (schema : Schema) : Prop :=
  ∃ types body schemas, env.layer known d = .named (.ok (types, body)) ∧
    List.Forall₂ (Translates env known names) types schemas ∧ schema = body schemas

theorem body_nonNull :
    Body env known names d.nonNull schema ↔ Body env known names d schema := Iff.rfl

/-- A body stays one while names stay. -/
theorem Body.mono
    (hnames : ∀ (d : Descriptor) n, names d.nonNull = some n → names' d.nonNull = some n)
    (h : Body env known names d schema) : Body env known names' d schema := by
  obtain ⟨types, body, schemas, hlayer, hschemas, rfl⟩ := h
  exact ⟨types, body, schemas, hlayer, hschemas.imp fun _ _ h => h.mono hnames, rfl⟩

/-- A type has one body. -/
theorem Body.unique (h : Body env known names d schema) (h' : Body env known names d schema') :
    schema = schema' := by
  obtain ⟨types, body, schemas, hlayer, hschemas, rfl⟩ := h
  obtain ⟨types', body', schemas', hlayer', hschemas', rfl⟩ := h'
  -- both come from one layer, whose types stand for one schema each
  rw [hlayer] at hlayer'
  cases hlayer'
  rw [List.right_unique_forall₂' (fun _ _ _ h h' => h.unique h') hschemas hschemas']

/-- Only records and sums have bodies. -/
theorem Body.isNamed (h : Body env known names d schema) : env.IsNamed d := by
  obtain ⟨types, body, schemas, hlayer, -, -⟩ := h
  exact isNamed_of_layer hlayer

/-- Filtering pairs by their first part and taking the first parts is filtering the first parts. -/
theorem filter_zip_fst {α β γ : Type} (p : α → Bool) (f : α → γ) (as : List α) (bs : List β)
    (h : as.length ≤ bs.length) :
    ((as.zip bs).filter fun q => p q.1).map (fun q => f q.1) = (as.filter p).map f := by
  conv_rhs => rw [← List.map_fst_zip h, List.filter_map, List.map_map]
  rfl

/-- **The body that synthesis makes is the one-level translation.** -/
theorem Body.oneLevel (h : Body env known names d schema) : OneLevel env known names d schema := by
  obtain ⟨types, body, schemas, hlayer, hschemas, rfl⟩ := h
  obtain ⟨hknown, ⟨hkind, hcontent⟩ | ⟨hkind, hcontent⟩⟩ := layer_named hlayer
  · -- a record: its properties are set one after the other, so the last of a wire name stays
    cases hfields : env.fields d with
    | error e => simp [Environment.recordContent, hfields, Except.map] at hcontent
    | ok fields =>
      simp only [Environment.recordContent, hfields, Except.map, Except.ok.injEq,
        Prod.mk.injEq] at hcontent
      obtain ⟨rfl, rfl⟩ := hcontent
      have hschemas : List.Forall₂ (fun f schema => Translates env known names f.type schema)
          (fields.filter isVisible) schemas := by
        rwa [List.forall₂_map_left_iff] at hschemas
      refine .object hkind hknown hfields hschemas ?_ ?_ ?_
      · exact Table.nodup _
      · intro wireName
        rw [List.zip_map_left]
        exact Table.get?_ofList _ _
      · exact filter_zip_fst (fun f : Field => !f.type.nullable) (·.wireName) _ _
          (Nat.le_of_eq hschemas.length_eq)
  · -- a sum
    cases hvariants : env.variants d with
    | error e => simp [Environment.sumContent, hvariants, Except.map] at hcontent
    | ok variants =>
      simp only [Environment.sumContent, hvariants, Except.map, Except.ok.injEq,
        Prod.mk.injEq] at hcontent
      obtain ⟨rfl, rfl⟩ := hcontent
      exact .sum hkind hknown hvariants hschemas

/-! ## What a complete set of names holds -/

theorem exists_of_forall₂ {α β : Type} {R : α → β → Prop} {as : List α} {bs : List β} {a : α}
    (h : List.Forall₂ R as bs) (ha : a ∈ as) : ∃ b, R a b := by
  obtain ⟨i, rfl⟩ := List.mem_iff_get.1 ha
  exact ⟨bs.get (i.cast h.length_eq), h.get i.2 (h.length_eq ▸ i.2)⟩

/-- A body refers to types that stand for a schema. -/
theorem Body.exists_translates (h : Body env known names d schema)
    (hrefers : Refers env known d e) : ∃ t, Translates env known names e t := by
  obtain ⟨types, body, schemas, hlayer, hschemas, -⟩ := h
  rw [refers_iff, hlayer] at hrefers
  obtain ⟨t, ht, rfl⟩ := hrefers
  obtain ⟨found, hfound⟩ := exists_of_forall₂ hschemas ht
  exact ⟨found, translates_nonNull.2 hfound⟩

/-- Every type that has a name has a body. -/
def Complete (env : Environment) (known : Descriptor → Option Schema)
    (names : Descriptor → Option String) : Prop :=
  ∀ d n, names d = some n → ∃ t, Body env known names d t

/-- **With complete names, a type that stands for a schema refers only to such types.** -/
theorem Complete.exists_translates (hcomplete : Complete env known names)
    (h : Translates env known names d schema) (hrefers : Refers env known d e) :
    ∃ t, Translates env known names e t := by
  have hlayer := translates_iff.1 h
  cases hfound : env.layer known d with
  | inline found | refused error =>
    rw [refers_iff, hfound] at hrefers
    obtain ⟨t, ht, -⟩ := hrefers
    cases ht
  | around wrap inner =>
    rw [refers_iff, hfound] at hrefers
    obtain ⟨t, ht, rfl⟩ := hrefers
    obtain rfl : t = inner := List.mem_singleton.1 ht
    rw [hfound] at hlayer
    obtain ⟨found, ht, -⟩ := hlayer
    exact ⟨found, translates_nonNull.2 ht⟩
  | named content =>
    rw [hfound] at hlayer
    -- the name has a body, and the body refers to what the type refers to
    obtain ⟨name, hname, -⟩ := hlayer
    obtain ⟨body, hbody⟩ := hcomplete _ _ hname
    have hsame : ∀ f, Refers env known d f ↔ Refers env known d.nonNull f := by
      intro f
      rw [refers_iff, refers_iff, layer_nonNull]
    exact hbody.exists_translates ((hsame e).1 hrefers)

/-- Under complete names, something stands for every type that is reached from one for which
something does. -/
theorem Complete.exists_translates_of_reach (hcomplete : Complete env known names)
    (h : Translates env known names d schema)
    (hreach : Relation.ReflTransGen (Refers env known) d.nonNull e) :
    ∃ t, Translates env known names e t := by
  induction hreach with
  | refl => exact ⟨schema, translates_nonNull.2 h⟩
  | tail _ hrefers ih =>
    obtain ⟨t, ht⟩ := ih
    exact hcomplete.exists_translates ht hrefers

end ApiShape
