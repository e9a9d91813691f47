import ApiShape.Proofs.Budget
import ApiShape.Proofs.Converter.Derivation
import ApiShape.Proofs.Schema.Termination

/-!
# Synthesis in two environments

Schema synthesis at a type in one environment and at a related type in another one.

* **`SameLevel`** — one level of two types is the same, over related types. `Aligned` says that
  related types are of one level once the wrappers around them are taken off.
* **`Coupled`** — what has to be known of two blueprints, and of the states that they run from, for
  the runs to go on alike.
* **`Coupled.exists_persists`** — synthesis at related types comes to the same, given a budget that
  allows for the wrappers of both; `Coupled.reaches` says so of builds.
* `reaches_eq`, `reaches_sameNames` — two couplings: everything is the same, or everything but the
  bodies of named schemas.
* **`Translates.of_related`** — related types stand for the same schema.
-/

namespace ApiShape

variable {env env' : Environment} {known : Descriptor → Option Schema}
  {R : Descriptor → Descriptor → Prop} {keep : Prop} {d d' e : Descriptor}

/-- Registries that resolve types alike know the same schemas. -/
theorem Registry.schemaOf?_congr {r : Registry} (h : r.resolve env' = r.resolve env) :
    r.schemaOf? env' = r.schemaOf? env := by
  funext d
  unfold schemaOf?
  rw [h]

/-! ## One level of two types -/

/-- The layers are the same, around or over related types. If `keep` holds, the bodies are the same
as well. -/
inductive Layer.Rel (R : Descriptor → Descriptor → Prop) (keep : Prop) : Layer → Layer → Prop
  | inline (schema : Schema) : Rel R keep (.inline schema) (.inline schema)
  | around (wrap : Schema → Schema) {inner inner' : Descriptor} (h : R inner inner') :
      Rel R keep (.around wrap inner) (.around wrap inner')
  | named {content content' : Except Error (List Descriptor × (List Schema → Schema))}
      (h : Alike (fun c c' => List.Forall₂ R c.1 c'.1 ∧ (keep → c'.2 = c.2)) content content') :
      Rel R keep (.named content) (.named content')
  | refused (e : Error) : Rel R keep (.refused e) (.refused e)

/-- One level of the first type is one level of the second, over related types. A type with a name
of its own is the same one, nullability aside. -/
structure SameLevel (env env' : Environment) (known : Descriptor → Option Schema)
    (R : Descriptor → Descriptor → Prop) (keep : Prop) (d d' : Descriptor) : Prop where
  kind : env'.kind d' = env.kind d
  key : d'.nonNull = d.nonNull ∨ env.kind d = .array ∨ env.kind d = .map
  layer : Layer.Rel R keep (env.layer known d) (env'.layer known d')

/-- Related types are of one level, once the wrappers around them are taken off. -/
def Aligned (env env' : Environment) (known : Descriptor → Option Schema)
    (R : Descriptor → Descriptor → Prop) (keep : Prop) : Prop :=
  ∀ d d', R d d' → ∃ e e', Unwraps env d e ∧ Unwraps env' d' e' ∧
    SameLevel env env' known R keep e e'

/-- Layers around one type are related if the types are found alike. -/
theorem Layer.Rel.ofInner {inner inner' : Except Error Descriptor} (wrap : Schema → Schema)
    (h : Alike R inner inner') : Layer.Rel R keep (.ofInner wrap inner) (.ofInner wrap inner') := by
  cases h with
  | ok h => exact .around wrap h
  | error e => exact .refused e

theorem Layer.Rel.flip {layer layer' : Layer} (h : Layer.Rel R keep layer layer') :
    Layer.Rel (flip R) keep layer' layer := by
  cases h with
  | inline schema => exact .inline schema
  | around wrap h => exact .around wrap h
  | refused e => exact .refused e
  | named h =>
    exact .named (h.flip.imp fun _ _ hc => ⟨hc.1.flip, fun hkeep => (hc.2 hkeep).symm⟩)

/-- One level being the same is symmetric. -/
theorem SameLevel.flip (h : SameLevel env env' known R keep d d') :
    SameLevel env' env known (flip R) keep d' d where
  kind := h.kind.symm
  key := by
    rw [h.kind]
    exact h.key.imp_left Eq.symm
  layer := h.layer.flip

/-- Types of the same level are the same, unless they are arrays or maps. -/
theorem SameLevel.nonNull_eq (h : SameLevel env env' known R keep d d')
    (harray : env.kind d ≠ .array) (hmap : env.kind d ≠ .map) : d'.nonNull = d.nonNull := by
  rcases h.key with hkey | hkind | hkind
  · exact hkey
  · exact absurd hkind harray
  · exact absurd hkind hmap

/-- Being aligned is symmetric. -/
theorem Aligned.flip (h : Aligned env env' known R keep) :
    Aligned env' env known (flip R) keep := by
  intro d' d hd
  obtain ⟨e, e', he, he', hlevel⟩ := h d d' hd
  exact ⟨e', e, he', he, hlevel.flip⟩

/-- What related types need each, two layers over them need. -/
theorem Layer.Rel.exists_bound {layer layer' : Layer} {P : ℕ → Descriptor → Descriptor → Prop}
    (h : Layer.Rel R keep layer layer')
    (hR : ∀ t t', R t t' → ∃ bound, ∀ n, bound ≤ n → P n t t') :
    ∃ bound, ∀ n, bound ≤ n → Layer.Rel (P n) keep layer layer' := by
  cases h with
  | inline schema => exact ⟨0, fun _ _ => .inline schema⟩
  | refused e => exact ⟨0, fun _ _ => .refused e⟩
  | around wrap h =>
    obtain ⟨bound, hbound⟩ := hR _ _ h
    exact ⟨bound, fun n hn => .around wrap (hbound n hn)⟩
  | named h =>
    cases h with
    | error e => exact ⟨0, fun _ _ => .named (.error e)⟩
    | ok h =>
      obtain ⟨bound, hbound⟩ := Action.exists_bound_forall₂ (h.1.imp hR)
      exact ⟨bound, fun n hn => .named (.ok ⟨hbound n hn, h.2⟩)⟩

/-- Wrappers around a type use up some of the budget and change nothing else. -/
theorem Unwraps.synthesise {bp : Blueprint} (h : Unwraps bp.env d e) :
    ∃ depth, (∀ budget, bp.synthesise (budget + depth) d = bp.synthesise budget e) ∧
      ∀ budget, budget ≤ depth → bp.synthesise budget d = throw .exhausted := by
  induction h with
  | refl d =>
    -- no wrapper, so nothing of the budget is spent
    refine ⟨0, fun budget => ?_, fun budget hle => ?_⟩
    · cases budget <;> rfl
    · obtain rfl : budget = 0 := by omega
      rfl
  | @step d inner e hkind hinner _ ih =>
    obtain ⟨depth, hsame, hfew⟩ := ih
    -- a wrapper costs one level, whatever its inner type is
    have hstep : ∀ budget, bp.synthesise (budget + 1) d = bp.synthesise budget inner := by
      intro budget
      have hkind' : bp.env.kind d.nonNull = .wrapper := hkind
      have hinner' : bp.env.unwrap d.nonNull = .ok inner := hinner
      rw [Blueprint.synthesise]
      simp only [hkind', hinner']
      rfl
    refine ⟨depth + 1, fun budget => ?_, fun budget hle => ?_⟩
    · rw [← hsame]
      exact hstep (budget + depth)
    · cases budget with
      | zero => rfl
      | succ budget =>
        rw [hstep]
        exact hfew budget (by omega)

namespace Blueprint

open ApiShape.Action

variable {bp bp' : Blueprint} {s : State}

/-! ## Following along related types -/

/-- Two blueprints can be followed alongside each other from related states: both look types up
alike, and related states stay related when a type is looked up or given its name, and when its body
is stored. If `keep` holds, it is the same body that both store. -/
structure Coupled (bp bp' : Blueprint) (known : Descriptor → Option Schema) (keep : Prop)
    (related : State → State → Prop) : Prop where
  namer : bp'.namer = bp.namer
  resolve : ∀ r : Registry, r.resolve bp'.env = r.resolve bp.env
  knows : ∀ {s t}, related s t → s.registry.schemaOf? bp.env = known
  registry : ∀ {s t}, related s t → t.registry = s.registry
  refs : ∀ {s t}, related s t → t.refs = s.refs
  looking : ∀ {s t}, related s t → ∀ r : Registry, r.schemaOf? bp.env = known →
    related { s with registry := r } { t with registry := r }
  naming : ∀ {s t}, related s t → ∀ refs,
    related { s with refs := refs } { t with refs := refs }
  restoring : ∀ {s t s' t'}, related s t → related s' t' →
    related { s' with refs := s.refs, schemas := s.schemas }
      { t' with refs := t.refs, schemas := t.schemas }
  storing : ∀ name {schema schema'}, (keep → schema' = schema) →
    Persists related (bp.store name schema) (bp'.store name schema')

namespace Coupled

variable {related : State → State → Prop}

/-- Both look a type up alike. -/
theorem lookUp (h : Coupled bp bp' known keep related)
    (hlevel : SameLevel bp.env bp'.env known R keep d d') (r : Registry) :
    r.lookUp bp'.env d' = r.lookUp bp.env d := by
  by_cases hkind : bp.env.kind d = .enum
  · have hkey : d'.nonNull = d.nonNull := hlevel.nonNull_eq (by simp [hkind]) (by simp [hkind])
    have hresolve : r.resolve bp'.env d' = r.resolve bp.env d := by
      show r.resolve bp'.env d'.nonNull = r.resolve bp.env d.nonNull
      rw [h.resolve, hkey]
    unfold Registry.lookUp
    rw [hresolve]
  · rw [Registry.lookUp_eq r hkind, Registry.lookUp_eq r (by rwa [hlevel.kind])]

/-- A named type persists if the types in its content do; where nullability is not kept, the bodies
may differ in what is required. -/
theorem persists_named (h : Coupled bp bp' known keep related)
    {visit visit' : Descriptor → Action Schema}
    {content content' : Except Error (List Descriptor × (List Schema → Schema))}
    (hkey : d'.nonNull = d.nonNull)
    (hcontent : ApiShape.Alike (fun c c' =>
      List.Forall₂ (fun t t' => Persists related (visit t) (visit' t')) c.1 c'.1 ∧
        (keep → c'.2 = c.2)) content content') :
    Persists related (bp.perform visit d (.named content))
      (bp'.perform visit' d' (.named content')) := by
  unfold perform named
  rw [hkey]
  refine persists_get fun s t hst => ?_
  rw [h.refs hst, h.namer]
  -- a type that has its name in one has it in the other
  cases s.refs.get? d.nonNull with
  | some name => exact persists_pure _
  | none =>
    -- otherwise both name it, visit what it is made of, and store their schemas
    refine (persists_modify fun s t hst => ?_).bind fun _ => ?_
    · rw [h.refs hst]
      exact h.naming hst _
    · simp only [bind_assoc, pure_bind]
      refine persists_alike hcontent fun content content' hc => ?_
      refine (Persists.mapM hc.1).bind fun schemas => ?_
      refine (h.storing _ fun hkeep => ?_).bind fun _ => persists_pure _
      rw [hc.2 hkeep]

/-- Two types of one level are followed alongside each other if the types below them are. -/
theorem persists_succ (h : Coupled bp bp' known keep related) {n m : ℕ}
    (hlevel : SameLevel bp.env bp'.env known
      (fun t t' => Persists related (bp.synthesise n t) (bp'.synthesise m t')) keep d d') :
    Persists related (bp.synthesise (n + 1) d) (bp'.synthesise (m + 1) d') := by
  rw [synthesise_succ, synthesise_succ]
  refine persists_get fun s t hst => (persists_modify fun s t hst => ?_).bind fun _ => ?_
  · -- both look up the same type in the same registry
    rw [h.registry hst, h.lookUp hlevel]
    exact h.looking hst _ (by rw [Registry.schemaOf?_lookUp, h.knows hst])
  · rw [h.registry hst, Registry.schemaOf?_congr (h.resolve _), h.knows hst]
    -- records and sums are keyed by their type, so the two types must be one
    have hkey : ∀ content, bp.env.layer known d = .named content → d'.nonNull = d.nonNull := by
      intro content hcontent
      rcases isNamed_of_layer hcontent with hkind | hkind <;>
        exact hlevel.nonNull_eq (by simp [hkind]) (by simp [hkind])
    have hlayer := hlevel.layer
    generalize bp.env.layer known d = layer at hlayer hkey
    generalize bp'.env.layer known d' = layer' at hlayer
    cases hlayer with
    | inline schema => exact persists_pure schema
    | around wrap hinner => exact hinner.bind fun _ => persists_pure _
    | refused e => exact persists_throw e
    | named hcontent => exact h.persists_named (hkey _ rfl) hcontent

/-- **Whatever synthesis comes to at a type, it comes to at a related one**, with a budget that
allows for the wrappers of both. Induction on the budget of the first one. -/
theorem exists_persists (h : Coupled bp bp' known keep related)
    (hR : Aligned bp.env bp'.env known R keep) (n : ℕ) :
    ∀ d d', R d d' → ∃ bound, ∀ m, bound ≤ m →
      Persists related (bp.synthesise n d) (bp'.synthesise m d') := by
  induction n using Nat.strong_induction_on with
  | _ n ih =>
    intro d d' hd
    obtain ⟨e, e', he, he', hlevel⟩ := hR d d' hd
    obtain ⟨depth, hsame, hfew⟩ := he.synthesise
    obtain ⟨depth', hsame', -⟩ := he'.synthesise
    rcases Nat.lt_or_ge depth n with hlt | hle
    · -- the wrappers leave something of the budget for the level below them
      obtain ⟨k, rfl⟩ : ∃ k, n = k + 1 + depth := ⟨n - depth - 1, by omega⟩
      obtain ⟨bound, hbound⟩ := hlevel.layer.exists_bound (ih k (by omega))
      refine ⟨bound + 1 + depth', fun m hm => ?_⟩
      obtain ⟨j, rfl⟩ : ∃ j, m = j + 1 + depth' := ⟨m - depth' - 1, by omega⟩
      rw [hsame, hsame']
      exact h.persists_succ ⟨hlevel.kind, hlevel.key, hbound j (by omega)⟩
    · refine ⟨0, fun m _ => ?_⟩
      rw [hfew n hle]
      exact persists_exhausted _

end Coupled

/-- A build that fails takes the names and the table back. -/
theorem run_build (bp : Blueprint) (budget : ℕ) (d : Descriptor) (s : State) :
    ({ bp with budget := budget }.build d).run s =
      match (bp.synthesise budget d).run s with
      | (.ok schema, s') => (.ok schema, s')
      | (.error e, s') => (.error e, { s' with refs := s.refs, schemas := s.schemas }) := by
  have hbuild : ({ bp with budget := budget }.build d).run s =
      (onError ({ bp with budget := budget }.synthesise budget d) fun _ =>
        modify fun s' => { s' with refs := s.refs, schemas := s.schemas }).run s := rfl
  rw [hbuild, synthesise_budget,
    run_onError fun _ s' => { s' with refs := s.refs, schemas := s.schemas }]
  · cases (bp.synthesise budget d).run s with
    | mk result s' => cases result <;> rfl
  · exact fun _ _ => rfl

/-- Whatever building `d` comes to with some budget, building `d'` comes to with another one, and
the states that they leave are related. -/
def Reaches (related : State → State → Prop) (bp bp' : Blueprint) (d d' : Descriptor) (s : State) :
    Prop :=
  ∀ budget result after, ({ bp with budget := budget }.build d).run s = (result, after) →
    result ≠ .error .exhausted → ∃ budget' after',
      ({ bp' with budget := budget' }.build d').run s = (result, after') ∧ related after after'

theorem Reaches.imp {related related' : State → State → Prop}
    (h : Reaches related bp bp' d d' s) (himp : ∀ s t, related s t → related' s t) :
    Reaches related' bp bp' d d' s := by
  intro budget result after hrun hends
  obtain ⟨budget', after', hrun', hafter⟩ := h budget result after hrun hends
  exact ⟨budget', after', hrun', himp _ _ hafter⟩

namespace Coupled

variable {related : State → State → Prop}

/-- Where synthesis persists, the build does. -/
theorem persists_build (h : Coupled bp bp' known keep related) {n m : ℕ}
    (hpersists : Persists related (bp.synthesise n d) (bp'.synthesise m d')) :
    Persists related ({ bp with budget := n }.build d) ({ bp' with budget := m }.build d') := by
  intro s t hst hends
  have hboth := hpersists s t hst
  rw [run_build] at hends ⊢
  rw [run_build]
  cases hrun : (bp.synthesise n d).run s with
  | mk result s' =>
    cases hrun' : (bp'.synthesise m d').run t with
    | mk result' t' =>
      rw [hrun, hrun'] at hboth
      rw [hrun] at hends
      cases result with
      | ok schema =>
        obtain ⟨rfl, hst'⟩ := hboth hends
        exact ⟨rfl, hst'⟩
      | error e =>
        obtain ⟨rfl, hst'⟩ := hboth hends
        exact ⟨rfl, h.restoring hst hst'⟩

/-- Related types are built alike, with some budget. -/
theorem reaches (h : Coupled bp bp' known keep related)
    (hR : Aligned bp.env bp'.env known R keep) (hd : R d d') (hs : related s s) :
    Reaches related bp bp' d d' s := by
  intro budget result after hrun hends
  obtain ⟨bound, hbound⟩ := h.exists_persists hR budget d d' hd
  have hbuild := h.persists_build (hbound bound (Nat.le_refl bound)) s s hs
  cases hrun' : ({ bp' with budget := bound }.build d').run s with
  | mk result' after' =>
    rw [hrun, hrun'] at hbuild
    obtain ⟨rfl, hafter⟩ := hbuild hends
    exact ⟨bound, after', hrun', hafter⟩

end Coupled

/-! ## Two couplings -/

/-- Where the bodies are the same, all is the same. -/
theorem coupled_eq (hnamer : bp'.namer = bp.namer) (hstrict : bp'.strictNames = bp.strictNames)
    (hresolve : ∀ r : Registry, r.resolve bp'.env = r.resolve bp.env) (hkeep : keep) :
    Coupled bp bp' known keep fun s t => t = s ∧ s.registry.schemaOf? bp.env = known where
  namer := hnamer
  resolve := hresolve
  knows hst := hst.2
  registry hst := by rw [hst.1]
  refs hst := by rw [hst.1]
  looking hst r hr := ⟨by rw [hst.1], hr⟩
  naming hst refs := ⟨by rw [hst.1], hst.2⟩
  restoring hst hst' := ⟨by rw [hst.1, hst'.1], hst'.2⟩
  storing name schema schema' hschema := by
    have hstore : bp'.store name schema' = bp.store name schema := by
      rw [hschema hkeep, store, store, hstrict]
    rw [hstore]
    refine Keeps.persists fun s hs => wp_store (fun _ _ => hs) (fun _ _ _ => hs) ?_
    exact fun _ _ _ => ⟨fun _ _ => hs, fun _ _ => hs⟩

/-- The states have the same converters, the same names and the same named schemas, but not the same
bodies. -/
structure SameNames (s t : State) : Prop where
  registry : t.registry = s.registry
  refs : t.refs = s.refs
  schemas : ∀ name, (t.schemas.get? name).isSome = (s.schemas.get? name).isSome

/-- Storing a schema sets the entry of its name and takes none away. -/
theorem Stored.isSome_iff {name : String} {schema : Schema} {s' : State}
    (h : bp.Stored name schema s s') (n : String) :
    (s'.schemas.get? n).isSome = (n = name || (s.schemas.get? n).isSome) := by
  by_cases hn : n = name
  · obtain ⟨e, he, -⟩ := h.entry
    simp [hn, he]
  · simp [hn, h.others n hn]

/-- Without strict names, no body that is stored changes how synthesis goes on. -/
theorem coupled_sameNames (hnamer : bp'.namer = bp.namer) (hlax : bp.strictNames = false)
    (hlax' : bp'.strictNames = false)
    (hresolve : ∀ r : Registry, r.resolve bp'.env = r.resolve bp.env) :
    Coupled bp bp' known keep fun s t =>
      SameNames s t ∧ s.registry.schemaOf? bp.env = known where
  namer := hnamer
  resolve := hresolve
  knows hst := hst.2
  registry hst := hst.1.registry
  refs hst := hst.1.refs
  looking hst r hr := ⟨⟨rfl, hst.1.refs, hst.1.schemas⟩, hr⟩
  naming hst refs := ⟨⟨hst.1.registry, rfl, hst.1.schemas⟩, hst.2⟩
  restoring hst hst' := ⟨⟨hst'.1.registry, hst.1.refs, hst.1.schemas⟩, hst'.2⟩
  -- neither fails on a collision, so both store under the same name
  storing name schema schema' _ := by
    refine persists_of_wp fun s t hst =>
      wp_mono (wp_stored s) (fun _ s' hs' => ?_) fun _ _ hfail => ?_
    · refine wp_mono (wp_stored t) (fun _ t' ht' => ?_) fun _ _ hfail => ?_
      · refine ⟨⟨?_, ?_, fun n => ?_⟩, ?_⟩
        · rw [ht'.registry, hs'.registry, hst.1.registry]
        · rw [ht'.refs, hs'.refs, hst.1.refs]
        · rw [ht'.isSome_iff, hs'.isSome_iff, hst.1.schemas]
        · rw [hs'.registry, hst.2]
      · exact absurd hfail.1 (by simp [hlax'])
    · exact absurd hfail.1 (by simp [hlax])

/-- Where nullability is kept, builds leave equal states behind. -/
theorem reaches_eq (hnamer : bp'.namer = bp.namer) (hstrict : bp'.strictNames = bp.strictNames)
    (hresolve : ∀ r : Registry, r.resolve bp'.env = r.resolve bp.env) (hkeep : keep)
    (hR : Aligned bp.env bp'.env (s.registry.schemaOf? bp.env) R keep) (hd : R d d') :
    Reaches (fun s t => t = s) bp bp' d d' s :=
  ((coupled_eq hnamer hstrict hresolve hkeep).reaches hR hd ⟨rfl, rfl⟩).imp fun _ _ hst => hst.1

/-- Where nullability is not kept, builds leave states with the same names behind. -/
theorem reaches_sameNames (hnamer : bp'.namer = bp.namer) (hlax : bp.strictNames = false)
    (hlax' : bp'.strictNames = false)
    (hresolve : ∀ r : Registry, r.resolve bp'.env = r.resolve bp.env)
    (hR : Aligned bp.env bp'.env (s.registry.schemaOf? bp.env) R keep) (hd : R d d') :
    Reaches SameNames bp bp' d d' s :=
  ((coupled_sameNames hnamer hlax hlax' hresolve).reaches hR hd
    ⟨⟨rfl, rfl, fun _ => rfl⟩, rfl⟩).imp fun _ _ hst => hst.1

end Blueprint

/-! ## Types inside others -/

/-- A wrapper stands for the schema of what it wraps. -/
theorem Unwraps.translates_iff {names : Descriptor → Option String} {schema : Schema}
    (h : Unwraps env d e) :
    Translates env known names d schema ↔ Translates env known names e schema := by
  induction h with
  | refl d => exact translates_nonNull.symm
  | step hkind hinner _ ih =>
    rw [← ih, ApiShape.translates_iff, (LayerOf.wrapper hkind).layer_eq, hinner]
    constructor
    · rintro ⟨t, ht, rfl⟩
      exact ht
    · exact fun ht => ⟨_, ht, rfl⟩

/-- A type whose layer is not around another type is no wrapper. -/
theorem Unwraps.eq_nonNull (h : Unwraps env d e)
    (hlayer : ∀ wrap inner, env.layer known d ≠ .around wrap inner) : e = d.nonNull := by
  cases h with
  | refl => rfl
  | @step _ inner _ hkind hinner =>
    refine absurd ?_ (hlayer id inner)
    rw [(LayerOf.wrapper hkind).layer_eq, hinner]
    rfl

/-- **Related types stand for the same schema.** Induction on the schema, level by level. -/
theorem Translates.of_related {names : Descriptor → Option String} {schema : Schema}
    (h : Translates env known names d schema)
    (hR : Aligned env env' known R keep) (hd : R d d') :
    Translates env' known names d' schema := by
  -- the wrappers around both types are taken off first
  suffices hlevel : ∀ e e', Unwraps env d e → SameLevel env env' known R keep e e' →
      Translates env' known names e' schema by
    obtain ⟨e, e', he, he', hlevels⟩ := hR d d' hd
    exact he'.translates_iff.2 (hlevel e e' he hlevels)
  refine h.layers (motive := fun d schema => ∀ e e', Unwraps env d e →
    SameLevel env env' known R keep e e' → Translates env' known names e' schema) ?_ ?_ ?_
  · intro d found hlayer e e' he hlevel
    have hplain : ∀ wrap inner, env.layer known d ≠ .around wrap inner := by simp [hlayer]
    obtain rfl := he.eq_nonNull hplain
    have hrel := hlevel.layer
    rw [layer_nonNull, hlayer] at hrel
    rw [translates_iff]
    generalize env'.layer known e' = layer' at hrel ⊢
    cases hrel with
    | inline => rfl
  · intro d wrap inner t hlayer ht ih e e' he hlevel
    cases he with
    | refl =>
      have hrel := hlevel.layer
      rw [layer_nonNull, hlayer] at hrel
      rw [translates_iff]
      generalize env'.layer known e' = layer' at hrel ⊢
      cases hrel with
      | around _ hinner =>
        obtain ⟨f, f', hf, hf', hlevel'⟩ := hR _ _ hinner
        exact ⟨t, hf'.translates_iff.2 (ih f f' hf hlevel'), rfl⟩
    | step hkind hinner hrest =>
      rw [(LayerOf.wrapper hkind).layer_eq, hinner] at hlayer
      cases hlayer
      exact ih e e' hrest hlevel
  · intro d content n hlayer hname e e' he hlevel
    have hplain : ∀ wrap inner, env.layer known d ≠ .around wrap inner := by simp [hlayer]
    obtain rfl := he.eq_nonNull hplain
    have hkey : e'.nonNull = d.nonNull := by
      rcases isNamed_of_layer hlayer with hkind | hkind <;>
        have hkind' : env.kind d.nonNull = _ := hkind <;>
        exact hlevel.nonNull_eq (by simp [hkind']) (by simp [hkind'])
    have hrel := hlevel.layer
    rw [layer_nonNull, hlayer] at hrel
    rw [translates_iff, hkey]
    generalize env'.layer known e' = layer' at hrel ⊢
    cases hrel with
    | named => exact ⟨n, hname, rfl⟩

end ApiShape
