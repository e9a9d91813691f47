import ApiShape.Proofs.Action
import ApiShape.Schema.Builder

/-!
# One level of a type

`Environment.layer` says what schema synthesis finds at a type before it looks at any other type: a
schema that is known, a schema to put around that of one other type, a record or a sum with a body
of its own, or a refusal. **`Blueprint.synthesise_succ`** says what synthesis does at a type by its
layer, and `Blueprint.wp_synthesise` what has to be shown of the layer; no proof about synthesis
looks at the kinds of types again.
-/

namespace ApiShape

variable {env : Environment} {d : Descriptor}

/-! ## The schemas that a registry knows -/

/-- The schema of the converter that the registry has or can make for the type. -/
def Registry.schemaOf? (r : Registry) (env : Environment) (d : Descriptor) : Option Schema :=
  match r.resolve env d with
  | .ok (_, i) => some i.converter.schema
  | .error _ => none

/-- A known schema is that of a converter. -/
theorem Registry.exists_resolve {r : Registry} {schema : Schema}
    (h : r.schemaOf? env d = some schema) :
    ∃ r' i, r.resolve env d = .ok (r', i) ∧ i.converter.schema = schema := by
  rw [schemaOf?] at h
  split at h
  · next r' i hresolve =>
    cases h
    exact ⟨r', i, hresolve, rfl⟩
  · cases h

theorem Registry.schemaOf?_nonNull (r : Registry) :
    r.schemaOf? env d.nonNull = r.schemaOf? env d := rfl

/-- The types of kind `enum` are those with an enumeration behind them. -/
theorem Environment.kind_eq_enum_iff :
    env.kind d = .enum ↔ (env.enumeration? d.origin).isSome := by
  obtain ⟨origin, args, nullable⟩ := d
  cases origin with
  | named c =>
    cases c with
    | builtin b =>
      simp only [kind, enumeration?, Option.isSome_none, Bool.false_eq_true, iff_false]
      split <;> simp
    | declared c =>
      simp only [kind, enumeration?]
      cases hfind : env.find? c with
      | none => simp
      | some decl =>
        simp only [Option.map_some, Option.getD_some, Option.bind_eq_bind, Option.bind_some,
          Declaration.kind]
        cases decl.shape <;> simp <;> grind
  | container c =>
    simp only [kind, enumeration?, Option.isSome_none, Bool.false_eq_true, iff_false]
    split <;> simp
  | _ => simp [kind, enumeration?]

/-- A registry handles a type exactly if it knows its schema. -/
theorem Registry.handles_iff (r : Registry) :
    r.handles env d = true ↔ (r.schemaOf? env d).isSome := by
  simp only [handles, Table.contains, Bool.or_eq_true, beq_iff_eq, Environment.kind_eq_enum_iff,
    schemaOf?, resolve]
  -- an enumeration that has not been asked for yet is known without an entry
  cases r.entries.get? d.nonNull with
  | some i => simp
  | none =>
    show _ ∨ (env.enumeration? d.nonNull.origin).isSome = true ↔ _
    cases env.enumeration? d.nonNull.origin with
    | some found => simp
    | none => simp

/-- What resolving a type puts into a registry changes none of the schemas that it knows. -/
theorem Registry.schemaOf?_resolve {r r' : Registry} {i : Installed}
    (h : r.resolve env d = .ok (r', i)) : r'.schemaOf? env = r.schemaOf? env := by
  funext d'
  unfold resolve at h
  cases hentry : r.entries.get? d.nonNull with
  | some installed =>
    simp only [hentry] at h
    cases h
    rfl
  | none =>
    simp only [hentry] at h
    cases henum : env.enumeration? d.nonNull.origin with
    | none => simp [henum] at h
    | some found =>
      obtain ⟨ref, e, strict⟩ := found
      simp only [henum, Except.ok.injEq] at h
      -- only the entry of the enumeration itself is new
      have hget : ∀ k, r'.entries.get? k =
          if d.nonNull = k then some i else r.entries.get? k := by
        intro k
        rw [install, Prod.mk.injEq] at h
        obtain ⟨rfl, rfl⟩ := h
        exact Table.get?_set ..
      have hschema : i.converter.schema = .primitive "string" none (some e.names) := by
        rw [install, Prod.mk.injEq] at h
        obtain ⟨-, rfl⟩ := h
        rfl
      simp only [schemaOf?, resolve, hget]
      by_cases hkey : d.nonNull = d'.nonNull
      · rw [if_pos hkey, ← hkey, hentry, henum]
        simp only [hschema]
        rfl
      · rw [if_neg hkey]
        cases r.entries.get? d'.nonNull with
        | some installed => rfl
        | none => cases env.enumeration? d'.nonNull.origin <;> rfl

/-- The registry after a type has been looked up. -/
def Registry.lookUp (r : Registry) (env : Environment) (d : Descriptor) : Registry :=
  match r.resolve env d with
  | .ok (after, _) => after
  | .error _ => r

/-- Looking a type up puts something into the registry only if it is an enumeration. -/
theorem Registry.lookUp_eq (r : Registry) (hkind : env.kind d ≠ .enum) : r.lookUp env d = r := by
  have henum : env.enumeration? d.nonNull.origin = none := by
    rwa [Ne, Environment.kind_eq_enum_iff, Bool.not_eq_true, Option.isSome_eq_false_iff,
      Option.isNone_iff_eq_none] at hkind
  unfold lookUp resolve
  simp only [henum]
  cases r.entries.get? d.nonNull <;> rfl

/-- Looking up a converter changes no known schema. -/
theorem Registry.schemaOf?_lookUp (r : Registry) (env : Environment) (d : Descriptor) :
    (r.lookUp env d).schemaOf? env = r.schemaOf? env := by
  unfold lookUp
  cases hresolve : r.resolve env d with
  | ok found => exact schemaOf?_resolve hresolve
  | error e => rfl

/-! ## Layers -/

/-- What schema synthesis finds at a type. The body of a record or a sum is made from the schemas of
the types that it names; listing these may fail. -/
inductive Layer where
  /-- The schema is known. -/
  | inline (schema : Schema)
  /-- The schema of one other type, with something put around it. -/
  | around (wrap : Schema → Schema) (inner : Descriptor)
  /-- A record or a sum. -/
  | named (content : Except Error (List Descriptor × (List Schema → Schema)))
  | refused (e : Error)

/-- A schema around that of a type, if there is such a type. -/
def Layer.ofInner (wrap : Schema → Schema) : Except Error Descriptor → Layer
  | .ok inner => .around wrap inner
  | .error e => .refused e

/-- The types of the visible fields of a record, and its body. -/
def Environment.recordContent (env : Environment) (d : Descriptor) :
    Except Error (List Descriptor × (List Schema → Schema)) :=
  (env.fields d).map fun fields =>
    let visible := fields.filter Blueprint.isVisible
    (visible.map (·.type), fun schemas => Blueprint.objectSchema (visible.zip schemas))

/-- The variants of a sum, and its body. -/
def Environment.sumContent (env : Environment) (d : Descriptor) :
    Except Error (List Descriptor × (List Schema → Schema)) :=
  (env.variants d).map fun variants => (variants, .oneOf)

/-- The layer of a type, where `known` gives the schemas that need no synthesis. -/
def Environment.layer (env : Environment) (known : Descriptor → Option Schema) (d : Descriptor) :
    Layer :=
  match env.kind d with
  | .stream => .inline .binary
  | .wrapper => .ofInner id (env.unwrap d)
  | kind =>
    match known d.nonNull with
    | some schema => .inline schema
    | none =>
      match kind with
      | .array => .ofInner .array (env.item d.nonNull)
      | .map => .ofInner .map (env.item d.nonNull)
      | .object => .named (env.recordContent d)
      | .sum => .named (env.sumContent d)
      | _ => .refused (.unhandled d.nonNull none)

namespace Blueprint

variable {bp : Blueprint} {budget : Nat} {s : State} {post : Schema → State → Prop}
  {fail : Error → State → Prop}

open ApiShape.Action

/-! ## Synthesis by layers -/

/-- Visiting the fields of a record one by one is visiting the list of their types. -/
theorem mapM_fields (visit : Descriptor → Action Schema) (fields : List Field) :
    fields.mapM (fun f => do return (f, ← visit f.type)) =
      (do return fields.zip (← (fields.map (·.type)).mapM visit) :
        Action (List (Field × Schema))) := by
  induction fields with
  | nil => simp
  | cons f rest ih =>
    rw [List.mapM_cons, ih, List.map_cons, List.mapM_cons]
    simp only [bind_assoc, pure_bind, List.zip_cons_cons]

/-- The body of a record is made from the schemas of its content. -/
theorem recordBody_eq (bp : Blueprint) (budget : Nat) (d : Descriptor) :
    (do
      let fields ← Action.ofExcept (bp.env.fields d.nonNull)
      return objectSchema (← (fields.filter isVisible).mapM fun f => do
        return (f, ← bp.synthesise budget f.type)) : Action Schema) =
    (do
      let (types, body) ← Action.ofExcept (bp.env.recordContent d)
      return body (← types.mapM (bp.synthesise budget))) := by
  rw [show bp.env.fields d.nonNull = bp.env.fields d from rfl, Environment.recordContent]
  cases bp.env.fields d with
  | error e => rfl
  | ok fields =>
    have hok : ∀ {α : Type} (x : α), Action.ofExcept (.ok x) = pure x := fun _ => rfl
    simp only [mapM_fields, Except.map, hok, pure_bind, bind_assoc]

/-- The body of a sum is made from the schemas of its content. -/
theorem sumBody_eq (bp : Blueprint) (budget : Nat) (d : Descriptor) :
    (do
      return .oneOf (← (← Action.ofExcept (bp.env.variants d.nonNull)).mapM
        (bp.synthesise budget)) : Action Schema) =
    (do
      let (types, body) ← Action.ofExcept (bp.env.sumContent d)
      return body (← types.mapM (bp.synthesise budget))) := by
  rw [show bp.env.variants d.nonNull = bp.env.variants d from rfl, Environment.sumContent]
  cases bp.env.variants d <;> rfl

/-- What is done at a type of a layer, where `visit` gives the schemas of other types. -/
def perform (bp : Blueprint) (visit : Descriptor → Action Schema) (d : Descriptor) :
    Layer → Action Schema
  | .inline schema => return schema
  | .around wrap inner => return wrap (← visit inner)
  | .named content => bp.named d.nonNull do
    let (types, body) ← Action.ofExcept content
    return body (← types.mapM visit)
  | .refused e => throw e

theorem perform_ofInner (visit : Descriptor → Action Schema) (wrap : Schema → Schema)
    (inner : Except Error Descriptor) :
    bp.perform visit d (.ofInner wrap inner) =
      (do return wrap (← visit (← Action.ofExcept inner))) := by
  cases inner <;> rfl

/-- A type whose schema the registry knows is looked up there. -/
theorem run_registry (other : Action Schema) :
    (do
      if (← get).registry.handles bp.env d.nonNull then
        return (← Action.resolve bp.env d.nonNull).converter.schema
      else other : Action Schema).run s =
    (match s.registry.schemaOf? bp.env d with
      | some schema => return schema
      | none => other).run { s with registry := s.registry.lookUp bp.env d } := by
  have hhandles : s.registry.handles bp.env d.nonNull = true ↔
      (s.registry.schemaOf? bp.env d).isSome := s.registry.handles_iff
  show (if s.registry.handles bp.env d.nonNull = true then
      (do return (← Action.resolve bp.env d.nonNull).converter.schema : Action Schema)
    else other).run s = _
  cases hschema : s.registry.schemaOf? bp.env d with
  -- not handled: nothing is installed, as the lookup fails
  | none =>
    rw [hschema] at hhandles
    have hlookUp : s.registry.lookUp bp.env d = s.registry := by
      unfold Registry.lookUp
      unfold Registry.schemaOf? at hschema
      cases hresolve : s.registry.resolve bp.env d with
      | ok found => simp [hresolve] at hschema
      | error e => rfl
    rw [if_neg (by simp [hhandles]), hlookUp]
  -- handled: resolving may install an enumeration, which the later lookup finds
  | some schema =>
    rw [hschema] at hhandles
    obtain ⟨after, i, hresolve, rfl⟩ := Registry.exists_resolve hschema
    have hfound : (Action.resolve bp.env d.nonNull).run s =
        (.ok i, { s with registry := after }) := by
      show (Action.ofExcept (s.registry.resolve bp.env d) >>= fun _ => _).run s = _
      rw [hresolve]
      rfl
    rw [if_pos (by simp [hhandles]), run_bind, hfound, Registry.lookUp, hresolve]

/-- **What synthesis does at a type: it looks the type up and does what its layer asks for.** -/
theorem synthesise_succ (bp : Blueprint) (budget : Nat) (d : Descriptor) :
    bp.synthesise (budget + 1) d = (do
      let s ← get
      modify fun s => { s with registry := s.registry.lookUp bp.env d }
      bp.perform (bp.synthesise budget) d (bp.env.layer (s.registry.schemaOf? bp.env) d)) := by
  funext s
  show (bp.synthesise (budget + 1) d).run s =
    (bp.perform (bp.synthesise budget) d (bp.env.layer (s.registry.schemaOf? bp.env) d)).run
      { s with registry := s.registry.lookUp bp.env d }
  have hlookUp : bp.env.kind d ≠ .enum →
      { s with registry := s.registry.lookUp bp.env d } = s := fun hkind => by
    rw [s.registry.lookUp_eq hkind]
  rw [synthesise, Environment.layer, Registry.schemaOf?_nonNull]
  simp only [show bp.env.kind d.nonNull = bp.env.kind d from rfl]
  -- what the registry knows comes before every kind but streams and wrappers
  cases hkind : bp.env.kind d with
  | stream =>
    rw [hlookUp (by simp [hkind])]
    rfl
  | wrapper =>
    rw [hlookUp (by simp [hkind]), perform_ofInner]
    simp only [id, bind_pure]
    rfl
  | array | map =>
    simp only [run_registry]
    cases s.registry.schemaOf? bp.env d with
    | some schema => rfl
    | none => rw [perform_ofInner]
  | object =>
    simp only [run_registry, recordBody_eq]
    cases s.registry.schemaOf? bp.env d <;> rfl
  | sum =>
    simp only [run_registry, sumBody_eq]
    cases s.registry.schemaOf? bp.env d <;> rfl
  | leaf | enum | unknown =>
    simp only [run_registry]
    cases s.registry.schemaOf? bp.env d <;> rfl

/-! ## What has to be shown of a layer -/

/-- The state in which a type has been given its name. -/
def naming (bp : Blueprint) (s : State) (d : Descriptor) : State :=
  { s with refs := s.refs.set d (bp.namer d) }

/-- Naming a type and building its body, unless it has been named. -/
theorem wp_named {body : Action Schema}
    (hcached : ∀ name, s.refs.get? d = some name → post (.ref name) s)
    (hnew : s.refs.get? d = none →
      wp body (fun schema s' => wp (bp.store (bp.namer d) schema)
        (fun _ s₂ => post (.ref (bp.namer d)) s₂) fail s') fail (bp.naming s d)) :
    wp (bp.named d body) post fail s := by
  rw [named, wp_bind, wp_get]
  cases href : s.refs.get? d with
  | some name => exact hcached name href
  | none =>
    simp only [wp_bind, wp_modify, wp_pure]
    exact hnew href

/-- What has to be shown of a layer for `post` and `fail` to hold after synthesis at `d`. A known
schema leaves behind a registry that knows the same schemas. -/
def Obligation (bp : Blueprint) (budget : Nat) (d : Descriptor) (post : Schema → State → Prop)
    (fail : Error → State → Prop) (s : State) : Layer → Prop
  | .inline schema =>
    ∀ after : Registry, after.schemaOf? bp.env = s.registry.schemaOf? bp.env →
      post schema { s with registry := after }
  | .around wrap inner =>
    wp (bp.synthesise budget inner) (fun schema s' => post (wrap schema) s') fail s
  | .named content =>
    (∀ name, s.refs.get? d.nonNull = some name → post (.ref name) s) ∧
    (s.refs.get? d.nonNull = none →
      match content with
      | .error e => fail e (bp.naming s d.nonNull)
      | .ok (types, body) =>
        wp (types.mapM (bp.synthesise budget))
          (fun schemas s' => wp (bp.store (bp.namer d.nonNull) (body schemas))
            (fun _ s₂ => post (.ref (bp.namer d.nonNull)) s₂) fail s')
          fail (bp.naming s d.nonNull))
  | .refused e => fail e s

/-- A type with no schema of its own leaves the registry as it is. -/
theorem lookUp_eq_of_layer {r : Registry}
    (h : ∀ schema, env.layer (r.schemaOf? env) d ≠ .inline schema) : r.lookUp env d = r := by
  refine r.lookUp_eq fun hkind => ?_
  have hknown : (r.schemaOf? env d.nonNull).isSome := by
    have hkind' : env.kind d.nonNull = .enum := hkind
    exact r.handles_iff.1 (by simp [Registry.handles, hkind'])
  obtain ⟨schema, hschema⟩ := Option.isSome_iff_exists.1 hknown
  exact h schema (by simp only [Environment.layer, hkind, hschema])

/-- **What synthesis comes to at a type, by its layer.** -/
theorem wp_synthesise
    (h : bp.Obligation budget d post fail s
      (bp.env.layer (s.registry.schemaOf? bp.env) d)) :
    wp (bp.synthesise (budget + 1) d) post fail s := by
  rw [synthesise_succ, wp_bind, wp_get, wp_bind, wp_modify]
  have hlookUp : (∀ schema, bp.env.layer (s.registry.schemaOf? bp.env) d ≠ .inline schema) →
      s.registry.lookUp bp.env d = s.registry := lookUp_eq_of_layer
  generalize bp.env.layer (s.registry.schemaOf? bp.env) d = layer at h hlookUp
  cases layer with
  | inline schema => exact h _ (s.registry.schemaOf?_lookUp bp.env d)
  -- in the other layers looking the type up has installed nothing
  | around wrap inner =>
    rw [hlookUp nofun, perform, wp_bind]
    exact h
  | refused e =>
    rw [hlookUp nofun]
    exact h
  | named content =>
    rw [hlookUp nofun]
    refine wp_named h.1 fun hnew => ?_
    have hbody := h.2 hnew
    cases content with
    | error e => exact hbody
    | ok content =>
      rw [wp_bind, wp_ofExcept_ok, wp_bind]
      exact hbody

/-! ## The table of named schemas -/

/-- Putting a schema into the table: under a new name it is set, under a name with an equal schema
nothing happens, and under a name with another schema a collision is noted, which fails with strict
names. -/
theorem wp_store {name : String} {schema : Schema} {post : Unit → State → Prop}
    (hnew : s.schemas.get? name = none →
      ∀ journal, post () { s with schemas := s.schemas.set name schema, journal })
    (hsame : ∀ existing, s.schemas.get? name = some existing → existing.same schema = true →
      post () s)
    (hclash : ∀ existing, s.schemas.get? name = some existing → existing.same schema = false →
      let clash : Collision := ⟨name, existing, schema⟩
      let collisions := s.collisions ++ [clash]
      (bp.strictNames = true → ∀ journal,
        fail (.namingCollision clash) { s with collisions, journal }) ∧
      (bp.strictNames = false → ∀ journal,
        post () { s with collisions, schemas := s.schemas.set name schema, journal })) :
    wp (bp.store name schema) post fail s := by
  rw [store, wp_bind, wp_get]
  cases hexisting : s.schemas.get? name with
  | none =>
    simp only [store.keep, wp_bind, wp_modify, wp_count, wp_report]
    exact hnew hexisting _
  | some existing =>
    simp only
    cases hequal : existing.same schema with
    | true =>
      rw [if_pos rfl, wp_pure]
      exact hsame existing hexisting hequal
    | false =>
      -- the collision is noted before it is raised
      obtain ⟨hstrict, hlax⟩ := hclash existing hexisting hequal
      simp only [Bool.false_eq_true, if_false, wp_bind, wp_modify, wp_count, wp_report]
      cases hnames : bp.strictNames with
      | true =>
        rw [if_pos rfl, wp_bind, wp_throw]
        exact hstrict hnames _
      | false =>
        simp only [Bool.false_eq_true, if_false, wp_bind, store.keep, wp_modify, wp_count,
          wp_report]
        exact hlax hnames _

/-! ## What every step keeps -/

/-- **What naming a type and storing a body keep, synthesis keeps**, whether it succeeds or
fails. -/
theorem wp_keeps {p : State → Prop} (hregistry : ∀ s registry, p s → p { s with registry })
    (hnaming : ∀ s d, p s → p (bp.naming s d))
    (hstore : ∀ s name schema, p s →
      wp (bp.store name schema) (fun _ s' => p s') (fun _ s' => p s') s) (budget : Nat) :
    ∀ (d : Descriptor) (s : State), p s →
      wp (bp.synthesise budget d) (fun _ s' => p s') (fun _ s' => p s') s := by
  induction budget with
  | zero => exact fun _ _ h => h
  | succ budget ih =>
    intro d s h
    apply wp_synthesise
    cases bp.env.layer (s.registry.schemaOf? bp.env) d with
    | inline found => exact fun after _ => hregistry s after h
    | around wrap inner => exact ih inner s h
    | refused e => exact h
    | named content =>
      refine ⟨fun _ _ => h, fun _ => ?_⟩
      have hnamed := hnaming s d.nonNull h
      cases content with
      | error e => exact hnamed
      | ok content =>
        obtain ⟨types, body⟩ := content
        have hvisits : wp (types.mapM (bp.synthesise budget)) (fun _ s' => p s')
            (fun _ s' => p s') (bp.naming s d.nonNull) :=
          wp_mapM (fun _ _ s' => p s') hnamed fun _ _ type s' _ h' => ih type s' h'
        exact wp_mono hvisits (fun schemas s' h' => hstore s' _ (body schemas) h') fun _ _ h => h

end Blueprint

end ApiShape
