import ApiShape.Proofs.Schema.Faithful
import ApiShape.Proofs.Schema.Success

/-!
# The order of builds

A build leaves out what earlier builds have named. What they named is built completely, so nothing
is lost by leaving it out: with distinct names, a build ends as it would on a new builder, and the
table holds the same bodies whatever the order of builds and however often each is repeated.

* **`Settled`** — between builds, every name has exactly its body in the table.
* **`follows_synthesise`** — synthesis ends alike from two states if the second has more names, all
  of them complete. Where the first run builds a type that the second one leaves out, it cannot
  fail.
* **`Settled.buildAll`** — what a run of builds returns and leaves behind, in terms of what each
  build does on a new builder.
-/

namespace ApiShape

open Relation (ReflTransGen)

variable {env : Environment} {known : Descriptor → Option Schema} {d : Descriptor}

/-- With complete names, the layer of a type that stands for a schema is sound. -/
theorem Complete.isSound {names : Descriptor → Option String} {schema : Schema}
    (hcomplete : Complete env known names) (h : Translates env known names d schema) :
    (env.layer known d).IsSound := by
  rw [translates_iff] at h
  cases hlayer : env.layer known d with
  | inline | around => trivial
  | named content =>
    rw [hlayer] at h
    obtain ⟨n, hn, -⟩ := h
    obtain ⟨t, types, body, schemas, hbody, -⟩ := hcomplete _ _ hn
    rw [layer_nonNull, hlayer] at hbody
    cases hbody
    trivial
  | refused e =>
    rw [hlayer] at h
    exact h.elim

namespace Blueprint

open ApiShape.Action

variable {bp : Blueprint} {budget : Nat} {scope extra : Descriptor → Prop} {s s' t t' : State}

/-! ## Two states, one ahead of the other -/

/-- The names of the second state are those of the first and the extra ones. -/
def Extends (extra : Descriptor → Prop) (s t : State) : Prop :=
  ∀ d, t.refs.get? d ≠ none ↔ s.refs.get? d ≠ none ∨ extra d

/-- Both states are tidy and know the same schemas; the second one has the extra names. -/
structure Ahead (bp : Blueprint) (known : Descriptor → Option Schema)
    (scope extra : Descriptor → Prop) (s t : State) : Prop where
  registry : s.registry.schemaOf? bp.env = known
  registry' : t.registry.schemaOf? bp.env = known
  tidy : bp.Tidy scope s
  tidy' : bp.Tidy scope t
  names : Extends extra s t

/-- Naming a type in both states adds it to both. -/
theorem Extends.naming (h : Extends extra s t) (d : Descriptor) :
    Extends extra (bp.naming s d) (bp.naming t d) := by
  intro e
  rw [Blueprint.naming, Blueprint.naming, Table.get?_set, Table.get?_set]
  split
  · simp
  · exact h e

/-- Naming a type in both states leaves the second one ahead. -/
theorem Ahead.naming (h : bp.Ahead known scope extra s t) (hscope : scope d.nonNull)
    (hnamed : bp.env.IsNamed d) :
    bp.Ahead known scope extra (bp.naming s d.nonNull) (bp.naming t d.nonNull) where
  registry := h.registry
  registry' := h.registry'
  tidy := h.tidy.naming hscope hnamed
  tidy' := h.tidy'.naming hscope hnamed
  names := h.names.naming d.nonNull

/-- Two runs that have both grown are as far apart as their names are. -/
theorem Ahead.follows (h : bp.Ahead known scope extra s t)
    (hclosed : ∀ d e, scope d → Refers bp.env known d e → scope e) (hscope : scope d.nonNull)
    (hfollows : Follows (Extends extra) (bp.synthesise budget d) s t) :
    Follows (fun s' t' => bp.Ahead known scope extra s' t' ∧ bp.Grows known scope s s' ∧
      bp.Grows known scope t t') (bp.synthesise budget d) s t := by
  have hgrows : ∀ {s : State}, s.registry.schemaOf? bp.env = known →
      wp (bp.synthesise budget d) (fun _ s' => bp.Grows known scope s s') (fun _ _ => True) s :=
    fun hknown => wp_mono (wp_grows hclosed budget d _ hscope hknown) (fun _ _ h => h.1)
      fun _ _ _ => trivial
  refine wp_mono (hfollows.and (hgrows h.registry) (hgrows h.registry')) ?_ fun _ _ h => h
  intro x s' hrest
  refine wp_mono hrest ?_ fun _ _ h => h
  rintro y t' ⟨hxy, hnames, hs, ht⟩
  exact ⟨hxy, {
    registry := hs.registry.trans h.registry
    registry' := ht.registry.trans h.registry'
    tidy := h.tidy.grow hs
    tidy' := h.tidy'.grow ht
    names := hnames }, hs, ht⟩

/-! ## Synthesis from two states -/

/-- A record or a sum that neither state has named: both runs build it. -/
theorem follows_of_unnamed (h : bp.Ahead known scope extra s t) (hscope : scope d.nonNull)
    {types : List Descriptor} {body : List Schema → Schema}
    (hlayer : bp.env.layer known d = .named (.ok (types, body)))
    (hs : s.refs.get? d.nonNull = none) (ht : t.refs.get? d.nonNull = none)
    (hvisits : Follows (fun s' t' => bp.Ahead known scope extra s' t' ∧
      bp.Grows known scope (bp.naming s d.nonNull) s' ∧
      bp.Grows known scope (bp.naming t d.nonNull) t') (types.mapM (bp.synthesise budget))
      (bp.naming s d.nonNull) (bp.naming t d.nonNull)) :
    Follows (Extends extra) (bp.synthesise (budget + 1) d) s t := by
  have hnamed : bp.env.IsNamed d := isNamed_of_layer hlayer
  apply wp_synthesise
  rw [h.registry, hlayer]
  refine ⟨fun name hname => (nomatch hs.symm.trans hname), fun _ => ?_⟩
  refine wp_mono hvisits ?_ ?_
  · intro schemas s₁ hrest
    -- the types of the body have been visited; both runs store the same body under a free name
    obtain ⟨_, t₁, hrun, rfl, hahead, hgrows, hgrows'⟩ := exists_run_ok hrest
    refine wp_mono (wp_stored s₁) ?_ ?_
    · intro _ s₂ hstored
      apply wp_synthesise
      rw [h.registry', hlayer]
      refine ⟨fun name hname => (nomatch ht.symm.trans hname), fun _ => wp_of_run_ok hrun ?_⟩
      refine wp_mono (wp_stored t₁) ?_ ?_
      · intro _ t₂ hstored'
        refine ⟨rfl, fun e => ?_⟩
        rw [hstored.refs, hstored'.refs]
        exact hahead.names e
      · rintro e t₂ ⟨-, htaken, -⟩
        rw [h.tidy'.unused hscope hnamed ht hgrows'] at htaken
        cases htaken
    · rintro e s₂ ⟨-, htaken, -⟩
      rw [h.tidy.unused hscope hnamed hs hgrows] at htaken
      cases htaken
  · -- a visit has failed, in both runs alike
    intro e s₁ hrest hends
    obtain ⟨_, t₁, hrun, rfl⟩ := exists_run_error (hrest hends)
    apply wp_synthesise
    rw [h.registry', hlayer]
    exact ⟨fun name hname => (nomatch ht.symm.trans hname), fun _ => wp_of_run_error hrun rfl⟩

/-- A record or a sum that the second state has named: the second run leaves it out. -/
theorem follows_of_named (h : bp.Ahead known scope extra s t)
    {content : Except Error (List Descriptor × (List Schema → Schema))}
    (hlayer : bp.env.layer known d = .named content) {name : String}
    (ht : t.refs.get? d.nonNull = some name)
    (hbuilds : s.refs.get? d.nonNull = none → wp (bp.synthesise (budget + 1) d)
      (fun schema s' => schema = .ref (bp.namer d.nonNull) ∧ Extends extra s' t)
      (fun e _ => e = .exhausted) s) :
    Follows (Extends extra) (bp.synthesise (budget + 1) d) s t := by
  obtain ⟨rfl, -⟩ := h.tidy'.names _ _ ht
  have hcached : ∀ {s' : State}, Extends extra s' t → wp (bp.synthesise (budget + 1) d)
      (fun schema t' => schema = .ref (bp.namer d.nonNull) ∧ Extends extra s' t')
      (fun _ _ => False) t := by
    intro s' hextends
    apply wp_synthesise
    rw [h.registry', hlayer]
    refine ⟨fun n hn => ?_, fun hnone => nomatch ht.symm.trans hnone⟩
    rw [ht, Option.some.injEq] at hn
    exact ⟨by rw [hn], hextends⟩
  cases hs : s.refs.get? d.nonNull with
  | some n =>
    -- both leave it out
    obtain ⟨rfl, -⟩ := h.tidy.names _ _ hs
    apply wp_synthesise
    rw [h.registry, hlayer]
    refine ⟨fun n hn => ?_, fun hnone => nomatch hs.symm.trans hnone⟩
    rw [hs, Option.some.injEq] at hn
    subst hn
    exact hcached h.names
  | none =>
    refine wp_mono (hbuilds hs) ?_ fun e _ he hends => absurd he hends
    rintro schema s' ⟨rfl, hextends⟩
    exact hcached hextends

/-- Where the second state's extra names are complete, the first run builds the type without fail
unless it nests too deep, and names nothing but what is extra. -/
theorem wp_extra {names : Descriptor → Option String} (hcomplete : Complete bp.env known names)
    (hclosed : ∀ d e, scope d → Refers bp.env known d e → scope e) (hscope : scope d.nonNull)
    (h : bp.Ahead known scope (fun e => names e ≠ none) s t)
    {content : Except Error (List Descriptor × (List Schema → Schema))}
    (hlayer : bp.env.layer known d = .named content) (hextra : names d.nonNull ≠ none) :
    wp (bp.synthesise budget d)
      (fun schema s' => schema = .ref (bp.namer d.nonNull) ∧
        Extends (fun e => names e ≠ none) s' t) (fun e _ => e = .exhausted) s := by
  -- the region of what stands for a schema under the extra names is closed and sound
  have hsub : ∀ e, (scope e ∧ ∃ r, Translates bp.env known names e r) → scope e := fun _ h => h.1
  have hclosed' : ∀ e f, (scope e ∧ ∃ r, Translates bp.env known names e r) →
      Refers bp.env known e f → scope f ∧ ∃ r, Translates bp.env known names f r := by
    rintro e f ⟨hscope, r, hr⟩ hrefers
    exact ⟨hclosed e f hscope hrefers, hcomplete.exists_translates hr hrefers⟩
  have htranslates : ∀ {e : Descriptor} {content}, bp.env.layer known e = .named content →
      names e.nonNull ≠ none → ∃ r, Translates bp.env known names e r := by
    intro e content hlayer hname
    obtain ⟨n, hn⟩ := Option.ne_none_iff_exists'.1 hname
    exact ⟨.ref n, translates_iff.2 (by rw [hlayer]; exact ⟨n, hn, rfl⟩)⟩
  have hregion : scope d.nonNull ∧ ∃ r, Translates bp.env known names d.nonNull r :=
    ⟨hscope, htranslates (by rw [layer_nonNull]; exact hlayer) hextra⟩
  have hsound := wp_sound hclosed' (fun e he => hcomplete.isSound he.2.choose_spec) hsub budget d s
    hregion h.registry (.inr h.tidy)
  refine wp_mono (wp_grown hclosed' hregion h.registry hsound) ?_ fun _ _ h => h
  rintro schema s' ⟨hgrows, hschema⟩
  rw [translates_iff, hlayer] at hschema
  obtain ⟨n, hn, rfl⟩ := hschema
  obtain ⟨rfl, -⟩ := (h.tidy.grow (hgrows.widen hsub)).names _ _ hn
  refine ⟨rfl, fun e => ⟨fun he => ?_, fun he => ?_⟩⟩
  · -- a name of the second state is one of the first, which stays, or an extra one
    exact ((h.names e).1 he).imp (fun hs => hgrows.ne_none hs) id
  · rcases he with he | he
    · cases hs : s.refs.get? e with
      | some m => exact (h.names e).2 (.inl (by rw [hs]; exact Option.some_ne_none m))
      | none =>
        -- a new name is one of a type with a schema, so it was extra
        obtain ⟨m, hm⟩ := Option.ne_none_iff_exists'.1 he
        obtain ⟨-, hnonNull, ⟨-, r, hr⟩, b, ⟨types, body, schemas, hbody, -⟩, -⟩ :=
          hgrows.fresh e m hs hm
        rw [translates_iff, hbody] at hr
        obtain ⟨n, hn, -⟩ := hr
        rw [hnonNull] at hn
        exact (h.names e).2 (.inr (by rw [hn]; exact Option.some_ne_none n))
    · exact (h.names e).2 (.inr he)

/-- **Synthesis ends alike from two states if the second one has more names, all of them
complete.** -/
theorem follows_synthesise {names : Descriptor → Option String}
    (hcomplete : Complete bp.env known names)
    (hclosed : ∀ d e, scope d → Refers bp.env known d e → scope e) (budget : Nat) :
    ∀ (d : Descriptor) (s t : State), scope d.nonNull →
      bp.Ahead known scope (fun e => names e ≠ none) s t →
      Follows (Extends fun e => names e ≠ none) (bp.synthesise budget d) s t := by
  induction budget with
  | zero => exact fun d s t _ _ hends => absurd rfl hends
  | succ budget ih =>
    intro d s t hscope h
    have htypes : ∀ u ∈ (bp.env.layer known d).types, scope u.nonNull := fun u hu =>
      hclosed _ _ hscope (refers_iff.2 ⟨u, hu, rfl⟩)
    cases hlayer : bp.env.layer known d with
    | inline found =>
      -- both states know the same schemas
      apply wp_synthesise
      rw [h.registry, hlayer]
      intro after _
      apply wp_synthesise
      rw [h.registry', hlayer]
      exact fun after' _ => ⟨rfl, h.names⟩
    | around wrap inner =>
      rw [hlayer] at htypes
      -- what stands around the inner type does not depend on the state
      apply wp_synthesise
      rw [h.registry, hlayer]
      refine wp_mono (ih inner s t (htypes inner (List.mem_singleton_self _)) h) ?_ ?_
      · intro schema s' hrest
        apply wp_synthesise
        rw [h.registry', hlayer]
        refine wp_mono hrest ?_ fun _ _ h => h
        rintro schema' t' ⟨rfl, hnames⟩
        exact ⟨rfl, hnames⟩
      · intro e s' hrest hends
        apply wp_synthesise
        rw [h.registry', hlayer]
        exact wp_mono (hrest hends) (fun _ _ h => h.elim) fun _ _ h => h
    | refused e =>
      apply wp_synthesise
      rw [h.registry, hlayer]
      intro _
      apply wp_synthesise
      rw [h.registry', hlayer]
      exact rfl
    | named content =>
      have hnamed : bp.env.IsNamed d := isNamed_of_layer hlayer
      cases ht : t.refs.get? d.nonNull with
      | some name =>
        -- the second state has named the type: then the first has as well, or the name is extra
        refine follows_of_named h hlayer ht fun hs => wp_extra hcomplete hclosed hscope h hlayer ?_
        have hsome := (h.names d.nonNull).1 (by rw [ht]; exact Option.some_ne_none name)
        exact hsome.resolve_left fun hne => hne hs
      | none =>
        -- neither state has named the type, so both build its content
        have hs : s.refs.get? d.nonNull = none := by
          by_contra hs
          exact (h.names d.nonNull).2 (.inl hs) ht
        cases content with
        | error e =>
          apply wp_synthesise
          rw [h.registry, hlayer]
          refine ⟨fun name hname => (nomatch hs.symm.trans hname), fun _ _ => ?_⟩
          apply wp_synthesise
          rw [h.registry', hlayer]
          exact ⟨fun name hname => (nomatch ht.symm.trans hname), fun _ => rfl⟩
        | ok content =>
          obtain ⟨types, body⟩ := content
          rw [hlayer] at htypes
          refine follows_of_unnamed h hscope hlayer hs ht (follows_mapM ?_ _ _ ?_)
          · -- both states grow with each type of the content, and the second one stays ahead
            rintro u hu s₁ t₁ ⟨hahead, hgrows, hgrows'⟩
            have hfollows := hahead.follows hclosed (htypes u hu) (ih u s₁ t₁ (htypes u hu) hahead)
            refine wp_mono hfollows ?_ fun _ _ h => h
            intro x s₂ hrest
            refine wp_mono hrest ?_ fun _ _ h => h
            rintro y t₂ ⟨hxy, hahead', hs₂, ht₂⟩
            exact ⟨hxy, hahead', hgrows.trans hs₂, hgrows'.trans ht₂⟩
          · exact ⟨h.naming hscope hnamed, .refl .., .refl ..⟩

/-! ## Settled states -/

/-- The state between builds: every name has exactly the body of its type in the table. -/
structure Settled (bp : Blueprint) (known : Descriptor → Option Schema)
    (scope : Descriptor → Prop) (s : State) : Prop where
  registry : s.registry.schemaOf? bp.env = known
  tidy : bp.Tidy scope s
  bodies : ∀ d n, s.refs.get? d = some n →
    ∃ b, Body bp.env known s.refs.get? d b ∧ s.schemas.get? n = some b

/-- In a settled state every name has a body. -/
theorem Settled.complete (h : bp.Settled known scope s) : Complete bp.env known s.refs.get? := by
  intro d n hname
  obtain ⟨b, hbody, -⟩ := h.bodies d n hname
  exact ⟨b, hbody⟩

theorem Settled.faithful (h : bp.Settled known scope s) : bp.Faithful known s where
  registry := h.registry
  bodies d n hname := by
    obtain ⟨b, hbody, hb⟩ := h.bodies d n hname
    exact ⟨b, hbody, b, hb, fun _ => .inl rfl⟩

/-- A settled state grows into a settled state. -/
theorem Settled.grow (h : bp.Settled known scope s) (hgrows : bp.Grows known scope s s') :
    bp.Settled known scope s' where
  registry := hgrows.registry.trans h.registry
  tidy := h.tidy.grow hgrows
  bodies d n hname := by
    have htidy := h.tidy.grow hgrows
    obtain ⟨-, -, b, hb, -⟩ := (h.faithful.grow hgrows).bodies d n hname
    -- the entry is the body of a type with the name, and there is only this one
    rcases hgrows.origin n b hb with hold | ⟨e, -, he, hbody⟩
    · obtain ⟨e, he⟩ := h.tidy.entries n b hold
      obtain rfl := htidy.eq_of_name (hgrows.names e n he) hname
      obtain ⟨b', hbody, hb'⟩ := h.bodies e n he
      rw [hold, Option.some.injEq] at hb'
      subst hb'
      exact ⟨b, hbody.mono fun d => hgrows.names d.nonNull, hb⟩
    · obtain rfl := htidy.eq_of_name he hname
      exact ⟨b, hbody, hb⟩

/-- A settled state is restored to a settled state. -/
theorem Settled.restore {e : Error} (h : bp.Settled known scope s)
    (hrestored : bp.Restored s e s') : bp.Settled known scope s' where
  registry := hrestored.registry.trans h.registry
  tidy := {
    distinct := h.tidy.distinct
    names := by
      rw [hrestored.refs]
      exact h.tidy.names
    entries := by
      rw [hrestored.refs, hrestored.schemas]
      exact h.tidy.entries }
  bodies := by
    rw [hrestored.refs, hrestored.schemas]
    exact h.bodies

/-- **Two settled states that name the same types have the same names and the same tables.** -/
theorem Settled.unique (hs : bp.Settled known scope s) (ht : bp.Settled known scope t)
    (hsame : ∀ d, s.refs.get? d ≠ none ↔ t.refs.get? d ≠ none) :
    s.refs.get? = t.refs.get? ∧ s.schemas.get? = t.schemas.get? := by
  have hnames : ∀ {s t : State}, bp.Settled known scope s → bp.Settled known scope t →
      (∀ d, s.refs.get? d ≠ none ↔ t.refs.get? d ≠ none) → ∀ d n, s.refs.get? d = some n →
      t.refs.get? d = some n := by
    intro s t hs ht hsame d n hn
    obtain ⟨m, hm⟩ := Option.ne_none_iff_exists'.1
      ((hsame d).1 (by rw [hn]; exact Option.some_ne_none n))
    obtain ⟨rfl, -⟩ := hs.tidy.names d n hn
    obtain ⟨rfl, -⟩ := ht.tidy.names d m hm
    exact hm
  have hrefs : s.refs.get? = t.refs.get? :=
    funext fun d => Option.ext fun n =>
      ⟨hnames hs ht hsame d n, hnames ht hs (fun d => (hsame d).symm) d n⟩
  have hentries : ∀ {s t : State}, bp.Settled known scope s → bp.Settled known scope t →
      s.refs.get? = t.refs.get? → ∀ n e, s.schemas.get? n = some e → t.schemas.get? n = some e := by
    intro s t hs ht hrefs n e he
    obtain ⟨d, hd⟩ := hs.tidy.entries n e he
    obtain ⟨b, hbody, hb⟩ := hs.bodies d n hd
    obtain ⟨b', hbody', hb'⟩ := ht.bodies d n (hrefs ▸ hd)
    rw [he, Option.some.injEq] at hb
    rw [hrefs] at hbody
    rw [hb', hb, hbody.unique hbody']
  exact ⟨hrefs, funext fun n => Option.ext fun e =>
    ⟨hentries hs ht hrefs n e, hentries ht hs hrefs.symm n e⟩⟩

/-! ## Builds from settled states -/

/-- No build has been made. -/
structure IsNew (s : State) : Prop where
  refs : s.refs = ∅
  schemas : s.schemas = ∅

theorem IsNew.tidy (h : IsNew s) (hdistinct : ∀ d e, scope d → scope e → bp.env.IsNamed d →
    bp.env.IsNamed e → bp.namer d = bp.namer e → d = e) : bp.Tidy scope s where
  distinct := hdistinct
  names d n hname := by
    rw [h.refs, Table.get?_empty] at hname
    cases hname
  entries n e hentry := by
    rw [h.schemas, Table.get?_empty] at hentry
    cases hentry

/-- A new builder is settled. -/
theorem IsNew.settled (h : IsNew s) (bp : Blueprint) (hknown : s.registry.schemaOf? bp.env = known)
    (hdistinct : ∀ d e, scope d → scope e → bp.env.IsNamed d → bp.env.IsNamed e →
      bp.namer d = bp.namer e → d = e) : bp.Settled known scope s where
  registry := hknown
  tidy := h.tidy hdistinct
  bodies d n hname := by
    rw [h.refs, Table.get?_empty] at hname
    cases hname

/-- What builds of the types add to the names, where `result` says how they end. -/
structure Adds (bp : Blueprint) (known : Descriptor → Option Schema)
    (result : Descriptor → Except Error Schema) (ds : List Descriptor) (s s' : State) : Prop where
  names : ∀ d n, s.refs.get? d = some n → s'.refs.get? d = some n
  /-- The closure of what has been built has names. -/
  built : ∀ d ∈ ds, ∀ schema, result d = .ok schema →
    Translates bp.env known s'.refs.get? d schema
  /-- New names are within reach of what has been built. -/
  reached : ∀ e, s'.refs.get? e ≠ none → s.refs.get? e ≠ none ∨
    ∃ d ∈ ds, (∃ schema, result d = .ok schema) ∧
      ReflTransGen (Refers bp.env known) d.nonNull e

/-- A build and a run after it add the names of both. -/
theorem Adds.cons {result : Descriptor → Except Error Schema} {ds : List Descriptor} {s₁ : State}
    (h : bp.Adds known result [d] s s₁) (h' : bp.Adds known result ds s₁ s') :
    bp.Adds known result (d :: ds) s s' where
  names e n hname := h'.names e n (h.names e n hname)
  built e he schema hresult := by
    rcases List.mem_cons.1 he with rfl | he
    · exact (h.built e (List.mem_singleton_self e) schema hresult).mono
        fun f => h'.names f.nonNull
    · exact h'.built e he schema hresult
  reached e hname := by
    rcases h'.reached e hname with hname | ⟨f, hf, hreached⟩
    · rcases h.reached e hname with hname | ⟨f, hf, hreached⟩
      · exact .inl hname
      · exact .inr ⟨f, List.mem_cons.2 (.inl (List.mem_singleton.1 hf)), hreached⟩
    · exact .inr ⟨f, List.mem_cons_of_mem _ hf, hreached⟩

/-- If synthesis follows from one state to the other, the build does. -/
theorem follows_build {related : State → State → Prop}
    (h : Follows related (bp.synthesise bp.budget d) s t) : Follows related (bp.build d) s t := by
  refine wp_build_of_synthesise (wp_mono h ?_ ?_)
  · exact fun x s' hrest => wp_build_of_synthesise hrest
  · exact fun e s' hrest hends => wp_build_of_synthesise (hrest hends)

/-- A build ends as it does on a new builder. -/
theorem Settled.run_build (h : bp.Settled known scope s)
    (hclosed : ∀ d e, scope d → Refers bp.env known d e → scope e) (hscope : scope d.nonNull)
    {new : State} (hnew : IsNew new) (hknown : new.registry.schemaOf? bp.env = known)
    (hends : ((bp.build d).run new).1 ≠ .error .exhausted) :
    ((bp.build d).run s).1 = ((bp.build d).run new).1 := by
  have hahead : bp.Ahead known scope (fun e => s.refs.get? e ≠ none) new s := {
    registry := hknown
    registry' := h.registry
    tidy := hnew.tidy h.tidy.distinct
    tidy' := h.tidy
    names := fun e => by rw [hnew.refs, Table.get?_empty]; simp }
  have hfollows := follows_synthesise h.complete hclosed bp.budget d new s hscope hahead
  exact (follows_build hfollows).result hends

/-- **A build from a settled state settles it again**, and adds what is within reach of the type if
it succeeds on a new builder. -/
theorem Settled.build (h : bp.Settled known scope s)
    (hclosed : ∀ d e, scope d → Refers bp.env known d e → scope e) (hscope : scope d.nonNull)
    (result : Descriptor → Except Error Schema) (hresult : ((bp.build d).run s).1 = result d) :
    bp.Settled known scope ((bp.build d).run s).2 ∧
      bp.Adds known result [d] s ((bp.build d).run s).2 := by
  have hreach : ∀ e, ReflTransGen (Refers bp.env known) d.nonNull e → scope e := by
    intro e he
    induction he with
    | refl => exact hscope
    | tail _ hrefers ih => exact hclosed _ _ ih hrefers
  have hbuild : wp (bp.build d)
      (bp.Grown known (ReflTransGen (Refers bp.env known) d.nonNull) s d) (bp.Restored s) s :=
    wp_build (fun _ _ he hrefers => he.tail hrefers) .refl h.registry
  cases hrun : (bp.build d).run s with
  | mk ending s' =>
    rw [hrun] at hresult
    subst hresult
    cases hending : result d with
    | ok schema =>
      rw [hending] at hrun
      obtain ⟨hgrows, hschema⟩ := post_of_run hbuild hrun
      refine ⟨h.grow (hgrows.widen hreach), hgrows.names, ?_, ?_⟩
      · -- the result stands for the type
        intro e he schema' hschema'
        obtain rfl := List.mem_singleton.1 he
        rw [hending, Except.ok.injEq] at hschema'
        exact hschema' ▸ hschema
      · -- a new name is one of a type within reach
        intro e hname
        cases hold : s.refs.get? e with
        | some n => exact .inl (Option.some_ne_none n)
        | none =>
          obtain ⟨n, hn⟩ := Option.ne_none_iff_exists'.1 hname
          obtain ⟨-, -, hreached, -⟩ := hgrows.fresh e n hold hn
          exact .inr ⟨d, List.mem_singleton_self d, ⟨schema, hending⟩, hreached⟩
    | error e =>
      rw [hending] at hrun
      -- a failed build leaves the names and the table as they were
      have hrestored := fail_of_run hbuild hrun
      refine ⟨h.restore hrestored, ?_, ?_, ?_⟩
      · rw [hrestored.refs]
        exact fun _ _ h => h
      · intro f hf schema hschema
        obtain rfl := List.mem_singleton.1 hf
        rw [hending] at hschema
        cases hschema
      · rw [hrestored.refs]
        exact fun _ h => .inl h

/-- **A run of builds from a settled state**: each build ends as it does on a new builder, and the
state is settled in the end. -/
theorem Settled.buildAll (hclosed : ∀ d e, scope d → Refers bp.env known d e → scope e)
    {new : State} (hnew : IsNew new) (hknown : new.registry.schemaOf? bp.env = known)
    {ds : List Descriptor} (hends : ∀ d ∈ ds, ((bp.build d).run new).1 ≠ .error .exhausted)
    (hscope : ∀ d ∈ ds, scope d.nonNull) : ∀ {s : State}, bp.Settled known scope s →
      (bp.buildAll ds s).1 = ds.map (fun d => ((bp.build d).run new).1) ∧
      bp.Settled known scope (bp.buildAll ds s).2 ∧
      bp.Adds known (fun d => ((bp.build d).run new).1) ds s (bp.buildAll ds s).2 := by
  induction ds with
  | nil => exact fun h => ⟨rfl, h, fun _ _ h => h, fun _ h => (nomatch h), fun _ h => .inl h⟩
  | cons d ds ih =>
    intro s h
    have hresult := h.run_build hclosed (hscope d List.mem_cons_self) hnew hknown
      (hends d List.mem_cons_self)
    obtain ⟨hsettled, hadds⟩ := h.build hclosed (hscope d List.mem_cons_self)
      (fun d => ((bp.build d).run new).1) hresult
    obtain ⟨hresults, hsettled', hadds'⟩ := ih (fun e he => hends e (List.mem_cons_of_mem _ he))
      (fun e he => hscope e (List.mem_cons_of_mem _ he)) hsettled
    refine ⟨?_, hsettled', hadds.cons hadds'⟩
    rw [List.map_cons, ← hresult, ← hresults]
    rfl

/-! ## Building again -/

/-- Synthesis leaves no trace at a type that stands for a schema. -/
theorem wp_rebuild (budget : Nat) : ∀ (d : Descriptor) {schema : Schema},
    s.registry.schemaOf? bp.env = known → Translates bp.env known s.refs.get? d schema →
    wp (bp.synthesise budget d) (fun _ s' => s'.refs = s.refs ∧ s'.schemas = s.schemas)
      (fun _ _ => True) s := by
  induction budget with
  | zero => exact fun _ _ _ _ => trivial
  | succ budget ih =>
    intro d schema hknown h
    rw [translates_iff] at h
    apply wp_synthesise
    rw [hknown]
    cases hlayer : bp.env.layer known d with
    | inline found => exact fun _ _ => ⟨rfl, rfl⟩
    | around wrap inner =>
      rw [hlayer] at h
      obtain ⟨t, ht, -⟩ := h
      exact ih inner hknown ht
    | named content =>
      rw [hlayer] at h
      obtain ⟨n, hn, -⟩ := h
      -- the type has a name, so its content is not built again
      exact ⟨fun _ _ => ⟨rfl, rfl⟩, fun hnone => (nomatch hn.symm.trans hnone)⟩
    | refused e =>
      rw [hlayer] at h
      exact h.elim

/-- **A build that has been made leaves no trace**: the type stands for a schema, or the build fails
again. -/
theorem Settled.rebuild (h : bp.Settled known scope s)
    (hclosed : ∀ d e, scope d → Refers bp.env known d e → scope e) (hscope : scope d.nonNull)
    (hbuilt : ∀ schema, ((bp.build d).run s).1 = .ok schema →
      Translates bp.env known s.refs.get? d schema) :
    ((bp.build d).run s).2.refs = s.refs ∧ ((bp.build d).run s).2.schemas = s.schemas := by
  cases hrun : (bp.build d).run s with
  | mk ending s' =>
    rw [hrun] at hbuilt
    cases ending with
    | ok schema =>
      have hrebuild : wp (bp.build d) (fun _ s' => s'.refs = s.refs ∧ s'.schemas = s.schemas)
          (fun _ _ => True) s :=
        wp_build_of_synthesise (wp_rebuild bp.budget d h.registry (hbuilt schema rfl))
      exact post_of_run hrebuild hrun
    | error e =>
      have hrestored := fail_of_run (wp_build hclosed hscope h.registry) hrun
      exact ⟨hrestored.refs, hrestored.schemas⟩

/-- The types that some build names and another run of the same builds names as well. -/
theorem Adds.names_of_same {result : Descriptor → Except Error Schema} {ds es : List Descriptor}
    {new : State} (hnew : IsNew new) (hs : bp.Settled known scope s)
    (ht : bp.Settled known scope t) (hadds : bp.Adds known result ds new s)
    (hadds' : bp.Adds known result es s' t) (hsub : ∀ d, d ∈ ds → d ∈ es) (e : Descriptor)
    (hname : s.refs.get? e ≠ none) : t.refs.get? e ≠ none := by
  obtain ⟨d, hd, ⟨schema, hschema⟩, hreach⟩ := (hadds.reached e hname).resolve_left
    fun hold => hold (by rw [hnew.refs, Table.get?_empty])
  obtain ⟨r, hr⟩ := ht.complete.exists_translates_of_reach
    (hadds'.built d (hsub d hd) schema hschema) hreach
  -- what has a name has a body, so that it stands for a schema only by its name
  obtain ⟨n, hn⟩ := Option.ne_none_iff_exists'.1 hname
  obtain ⟨-, hnonNull, -⟩ := hs.tidy.names e n hn
  obtain ⟨b, types, body, schemas, hlayer, -⟩ := hs.complete e n hn
  rw [translates_iff, hlayer] at hr
  obtain ⟨m, hm, -⟩ := hr
  rw [hnonNull] at hm
  rw [hm]
  exact Option.some_ne_none m

/-- **The order of builds does not matter.** Two runs on new builders with equal registries build
the same types, in any order and each any number of times. The builds end on a new builder, and the
namer tells the records and sums within reach apart. Then every build ends as it does on a new
builder, the names and the tables are equal in the end, and another build of one of the types
changes neither. -/
theorem buildAll_order (bp : Blueprint) (ds es : List Descriptor) (s t : State)
    (hsame : ∀ d, d ∈ ds ↔ d ∈ es) (hregistry : s.registry = t.registry)
    (hs : IsNew s) (ht : IsNew t)
    (hends : ∀ d ∈ ds, ((bp.build d).run s).1 ≠ .error .exhausted)
    (hdistinct : ∀ d e,
      (∃ a ∈ ds, ReflTransGen (Refers bp.env (s.registry.schemaOf? bp.env)) a.nonNull d) →
      (∃ b ∈ ds, ReflTransGen (Refers bp.env (s.registry.schemaOf? bp.env)) b.nonNull e) →
      bp.env.IsNamed d → bp.env.IsNamed e → bp.namer d = bp.namer e → d = e) :
    (bp.buildAll ds s).1 = ds.map (fun d => ((bp.build d).run s).1) ∧
    (bp.buildAll es t).1 = es.map (fun d => ((bp.build d).run s).1) ∧
    (∀ d, (bp.buildAll ds s).2.refs.get? d = (bp.buildAll es t).2.refs.get? d) ∧
    (∀ n, (bp.buildAll ds s).2.schemas.get? n = (bp.buildAll es t).2.schemas.get? n) ∧
    ∀ d ∈ ds,
      ((bp.build d).run (bp.buildAll ds s).2).2.refs = (bp.buildAll ds s).2.refs ∧
      ((bp.build d).run (bp.buildAll ds s).2).2.schemas = (bp.buildAll ds s).2.schemas := by
  have hclosed : ∀ d e,
      (∃ a ∈ ds, ReflTransGen (Refers bp.env (s.registry.schemaOf? bp.env)) a.nonNull d) →
      Refers bp.env (s.registry.schemaOf? bp.env) d e →
      ∃ a ∈ ds, ReflTransGen (Refers bp.env (s.registry.schemaOf? bp.env)) a.nonNull e :=
    fun d e ⟨a, ha, hreach⟩ hrefers => ⟨a, ha, hreach.tail hrefers⟩
  have hstart := hs.settled bp rfl hdistinct
  have hstart' := ht.settled bp (by rw [← hregistry]) hdistinct
  -- every build of a run ends as on a new builder
  obtain ⟨hresults, hsettled, hadds⟩ := Settled.buildAll hclosed hs rfl hends
    (fun d hd => ⟨d, hd, .refl⟩) hstart
  obtain ⟨hresults', hsettled', hadds'⟩ := Settled.buildAll hclosed hs rfl
    (fun d hd => hends d ((hsame d).2 hd)) (fun d hd => ⟨d, (hsame d).2 hd, .refl⟩) hstart'
  -- both runs have named the same types, which determines their names and entries
  obtain ⟨hrefs, hschemas⟩ := hsettled.unique hsettled' fun e =>
    ⟨hadds.names_of_same hs hsettled hsettled' hadds' (fun d => (hsame d).1) e,
      hadds'.names_of_same ht hsettled' hsettled hadds (fun d => (hsame d).2) e⟩
  refine ⟨hresults, hresults', congrFun hrefs, congrFun hschemas, fun d hd => ?_⟩
  -- what has been built is found
  refine hsettled.rebuild hclosed ⟨d, hd, .refl⟩ fun schema hschema => ?_
  rw [hsettled.run_build hclosed ⟨d, hd, .refl⟩ hs rfl (hends d hd)] at hschema
  exact hadds.built d hd schema hschema

open ApiShape.Sample Blueprint.Sample

/-- Routes and points can be built in any order, around a build that fails. -/
theorem buildAll_order_route :
    (routes.buildAll [classType "Route", .any, classType "Point"]
      textual).2.schemas.get? =
    (routes.buildAll [classType "Point", classType "Route", .any, classType "Route"]
      textual).2.schemas.get? := by
  have hclosed : ∀ d ∈ [classType "Route", classType "Point", .ofBuiltin .str, .any],
      ∀ t ∈ (routes.env.layer
        (textual.registry.schemaOf? routes.env) d).types,
        t.nonNull ∈ [classType "Route", classType "Point", .ofBuiltin .str, .any] := by decide
  have hbuilds : ∀ d ∈ [classType "Route", .any, classType "Point"],
      d.nonNull ∈ [classType "Route", classType "Point", .ofBuiltin .str, .any] := by decide
  have hdistinct : ∀ d ∈ [classType "Route", classType "Point", .ofBuiltin .str, .any],
      ∀ e ∈ [classType "Route", classType "Point", .ofBuiltin .str, .any],
      routes.env.IsNamed d → routes.env.IsNamed e → routes.namer d = routes.namer e → d = e := by
    decide
  -- the second build fails, and it fails alike wherever it stands
  have hends : [classType "Route", .any, classType "Point"].map
      (fun d => ((routes.build d).run textual).1) =
      [.ok (.ref "Route"), .error (.unhandled .any none), .ok (.ref "Point")] := rfl
  refine funext (buildAll_order routes _ _ textual
    textual (by grind) rfl ⟨rfl, rfl⟩ ⟨rfl, rfl⟩ ?_ ?_).2.2.2.1
  · intro d hd hexhausted
    have hresult : .error .exhausted ∈ [classType "Route", .any, classType "Point"].map
        (fun d => ((routes.build d).run textual).1) :=
      List.mem_map.2 ⟨d, hd, hexhausted⟩
    rw [hends] at hresult
    simp [Error.unhandled] at hresult
  · rintro d e ⟨a, ha, hd⟩ ⟨b, hb, he⟩
    exact hdistinct d (mem_of_reach hclosed hd (hbuilds a ha)) e
      (mem_of_reach hclosed he (hbuilds b hb))

end Blueprint

end ApiShape
