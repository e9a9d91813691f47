import ApiShape.Proofs.Schema.Faithful

/-!
# A failed build leaves no trace

A build that fails takes back the names and bodies that it added. Three things it does not take
back: the converters of enumerations that it made, the collisions that it noted, and its reports.
None of them is seen by a later build.

* **`Alike`** — two states that differ in these three things only. Of the registries it asks that
  they know the same schemas, not that they have the same entries.
* **`agrees_synthesise`** — from states that are alike, synthesis ends in the same way and leaves
  states that are alike.
* **`build_failed_no_trace`** — a failed build, and all builds after it.
-/

namespace ApiShape

namespace Blueprint

open ApiShape.Action

variable {bp : Blueprint} {budget : Nat} {s t : State} {d : Descriptor}

/-- The states have the same names and the same table, and their registries know the same
schemas. -/
structure Alike (bp : Blueprint) (s t : State) : Prop where
  registry : t.registry.schemaOf? bp.env = s.registry.schemaOf? bp.env
  refs : t.refs = s.refs
  schemas : t.schemas = s.schemas

theorem Alike.naming (h : bp.Alike s t) (d : Descriptor) :
    bp.Alike (bp.naming s d) (bp.naming t d) where
  registry := h.registry
  refs := by rw [Blueprint.naming, Blueprint.naming, h.refs]
  schemas := h.schemas

/-! ## Synthesis -/

/-- Whether a name is new, taken by an equal schema or taken by another one is decided by the table
alone, so both runs store, or refuse, alike. -/
theorem agrees_store (h : bp.Alike s t) (name : String) (schema : Schema) :
    Agrees bp.Alike (bp.store name schema) s t := by
  refine wp_store ?_ ?_ ?_
  · -- a free name is taken by both
    intro hnone journal
    refine wp_store ?_ ?_ ?_ <;> rw [h.schemas, hnone]
    · intro _ journal'
      exact ⟨rfl, h.registry, h.refs, rfl⟩
    · exact fun _ hsome => nomatch hsome
    · exact fun _ hsome => nomatch hsome
  · -- an equal schema changes neither table
    intro existing hexisting hequal
    refine wp_store ?_ ?_ ?_ <;> rw [h.schemas, hexisting]
    · exact fun hnone => nomatch hnone
    · intro _ _ _
      exact ⟨rfl, h⟩
    · intro other hother hdiffers
      cases hother
      rw [hequal] at hdiffers
      cases hdiffers
  · intro existing hexisting hdiffers
    -- the second run notes the same collision, and raises it if names are strict
    have hclash : ∀ {post : Unit → State → Prop} {fail : Error → State → Prop},
        (bp.strictNames = true → ∀ collisions journal,
          fail (.namingCollision ⟨name, existing, schema⟩) { t with collisions, journal }) →
        (bp.strictNames = false → ∀ collisions journal,
          post () { t with collisions, schemas := t.schemas.set name schema, journal }) →
        wp (bp.store name schema) post fail t := by
      intro post fail hstrict hlax
      refine wp_store ?_ ?_ ?_ <;> rw [h.schemas, hexisting]
      · exact fun hnone => nomatch hnone
      · intro other hother hequal
        cases hother
        rw [hdiffers] at hequal
        cases hequal
      · intro other hother _
        cases hother
        rw [← h.schemas]
        exact ⟨fun hnames => hstrict hnames _, fun hnames => hlax hnames _⟩
    -- with strict names both fail, with others both replace the entry
    refine ⟨fun hstrict journal => ?_, fun hlax journal => ?_⟩
    · refine hclash (fun _ _ _ => ⟨rfl, h.registry, h.refs, h.schemas⟩) fun hlax => ?_
      rw [hstrict] at hlax
      cases hlax
    · refine hclash (fun hstrict => ?_) fun _ _ _ => ⟨rfl, h.registry, h.refs, ?_⟩
      · rw [hlax] at hstrict
        cases hstrict
      · exact congrArg (·.set name schema) h.schemas

/-- A record or a sum without a name: both runs build it. -/
theorem agrees_of_unnamed (h : bp.Alike s t) {types : List Descriptor}
    {body : List Schema → Schema}
    (hlayer : bp.env.layer (s.registry.schemaOf? bp.env) d = .named (.ok (types, body)))
    (hs : s.refs.get? d.nonNull = none)
    (hvisits : Agrees bp.Alike (types.mapM (bp.synthesise budget)) (bp.naming s d.nonNull)
      (bp.naming t d.nonNull)) :
    Agrees bp.Alike (bp.synthesise (budget + 1) d) s t := by
  have hsecond : ∀ {post : Schema → State → Prop} {fail : Error → State → Prop},
      wp (types.mapM (bp.synthesise budget))
        (fun schemas t' => wp (bp.store (bp.namer d.nonNull) (body schemas))
          (fun _ t₂ => post (.ref (bp.namer d.nonNull)) t₂) fail t') fail (bp.naming t d.nonNull) →
      wp (bp.synthesise (budget + 1) d) post fail t := by
    intro post fail hbody
    apply wp_synthesise
    rw [h.registry, hlayer]
    refine ⟨fun name hname => ?_, fun _ => hbody⟩
    rw [h.refs, hs] at hname
    cases hname
  apply wp_synthesise
  rw [hlayer]
  refine ⟨fun name hname => (nomatch hs.symm.trans hname), fun _ => wp_mono hvisits ?_ ?_⟩
  · -- the bodies agree, and so do the entries made from them
    intro schemas s₁ hrest
    obtain ⟨_, t₁, hrun, rfl, halike⟩ := exists_run_ok hrest
    refine wp_mono (agrees_store halike _ _) ?_ ?_
    · intro _ s₂ hstored
      refine hsecond (wp_of_run_ok hrun (wp_mono hstored ?_ fun _ _ h => h))
      rintro _ t₂ ⟨-, halike₂⟩
      exact ⟨rfl, halike₂⟩
    · intro e s₂ hstored
      exact hsecond (wp_of_run_ok hrun (wp_mono hstored (fun _ _ h => h.elim) fun _ _ h => h))
  · -- a type of the content has failed in both
    intro e s₁ hrest
    exact hsecond (wp_mono hrest (fun _ _ h => h.elim) fun _ _ h => h)

/-- **From states that are alike, synthesis ends alike.** Induction on the budget: the layer of a
type hangs on the known schemas only, and whether a record or a sum is built on the names. -/
theorem agrees_synthesise (budget : Nat) :
    ∀ (d : Descriptor) (s t : State), bp.Alike s t →
      Agrees bp.Alike (bp.synthesise budget d) s t := by
  induction budget with
  | zero => exact fun _ _ _ h => ⟨rfl, h⟩
  | succ budget ih =>
    intro d s t h
    have hsecond : ∀ {post : Schema → State → Prop} {fail : Error → State → Prop},
        bp.Obligation budget d post fail t (bp.env.layer (s.registry.schemaOf? bp.env) d) →
        wp (bp.synthesise (budget + 1) d) post fail t := by
      intro post fail hobligation
      apply wp_synthesise
      rwa [h.registry]
    cases hlayer : bp.env.layer (s.registry.schemaOf? bp.env) d with
    | inline found =>
      apply wp_synthesise
      rw [hlayer] at hsecond ⊢
      -- a known schema may install a converter, which the registries may differ in
      intro after hafter
      refine hsecond fun after' hafter' => ⟨rfl, ?_, h.refs, h.schemas⟩
      exact hafter'.trans (h.registry.trans hafter.symm)
    | around wrap inner =>
      apply wp_synthesise
      rw [hlayer] at hsecond ⊢
      -- the inner type is built alike
      refine wp_mono (ih inner s t h) ?_ ?_
      · intro schema s' hrest
        refine hsecond (wp_mono hrest ?_ fun _ _ h => h)
        rintro _ t' ⟨rfl, halike⟩
        exact ⟨rfl, halike⟩
      · intro e s' hrest
        exact hsecond (wp_mono hrest (fun _ _ h => h.elim) fun _ _ h => h)
    | refused e =>
      apply wp_synthesise
      rw [hlayer] at hsecond ⊢
      exact hsecond ⟨rfl, h⟩
    | named content =>
      have halike := h.naming d.nonNull
      cases hs : s.refs.get? d.nonNull with
      | some name =>
        -- both runs leave the type out
        have ht : t.refs.get? d.nonNull = some name := by rw [h.refs, hs]
        apply wp_synthesise
        rw [hlayer] at hsecond ⊢
        refine ⟨fun n hn => hsecond ⟨fun m hm => ?_, fun hnone => ?_⟩, fun hnone => ?_⟩
        · rw [← Option.some.inj (hs.symm.trans hn), ← Option.some.inj (ht.symm.trans hm)]
          exact ⟨rfl, h⟩
        · cases ht.symm.trans hnone
        · cases hs.symm.trans hnone
      | none =>
        cases content with
        | error e =>
          -- both runs fail to find the content
          have ht : t.refs.get? d.nonNull = none := by rw [h.refs, hs]
          apply wp_synthesise
          rw [hlayer] at hsecond ⊢
          refine ⟨fun name hname => (nomatch hs.symm.trans hname), fun _ => hsecond ⟨?_, ?_⟩⟩
          · exact fun name hname => nomatch ht.symm.trans hname
          · exact fun _ => ⟨rfl, halike⟩
        | ok content =>
          exact agrees_of_unnamed h hlayer hs (agrees_mapM (fun type _ => ih type) _ _ halike)

/-! ## Builds -/

theorem agrees_build (h : bp.Alike s t) (d : Descriptor) :
    Agrees bp.Alike (bp.build d) s t := by
  have hsynthesise := agrees_synthesise bp.budget d s t h
  have hbuild : ∀ {post : Schema → State → Prop} {fail : Error → State → Prop} {u : State},
      wp (bp.synthesise bp.budget d) post
        (fun e u' => fail e { u' with refs := u.refs, schemas := u.schemas }) u →
      wp (bp.build d) post fail u := by
    intro post fail u hwp
    rw [build, wp_bind, wp_get, wp_onError]
    exact wp_mono hwp (fun _ _ h => h) fun _ _ h => h
  refine hbuild (wp_mono hsynthesise ?_ ?_)
  · intro schema s' hrest
    exact hbuild (wp_mono hrest (fun _ _ h => h) fun _ _ h => h.elim)
  · intro e s' hrest
    refine hbuild (wp_mono hrest (fun _ _ h => h.elim) ?_)
    rintro _ t' ⟨rfl, halike⟩
    exact ⟨rfl, halike.registry, h.refs, h.schemas⟩

/-- **From states that are alike, any run of builds ends alike.** -/
theorem Alike.buildAll (ds : List Descriptor) : ∀ {s t : State}, bp.Alike s t →
    (bp.buildAll ds t).1 = (bp.buildAll ds s).1 ∧
      bp.Alike (bp.buildAll ds s).2 (bp.buildAll ds t).2 := by
  induction ds with
  | nil => exact fun h => ⟨rfl, h⟩
  | cons d ds ih =>
    intro s t h
    obtain ⟨hresult, halike⟩ := agrees_iff.1 (agrees_build h d)
    obtain ⟨hresults, hrest⟩ := ih halike
    refine ⟨?_, hrest⟩
    rw [Blueprint.buildAll, Blueprint.buildAll, hresult, hresults]

/-- What a failed build leaves behind is like the state before it. -/
theorem Restored.alike {e : Error} (h : bp.Restored s e t) : bp.Alike s t :=
  ⟨h.registry, h.refs, h.schemas⟩

/-- **A failed build leaves no trace.** In any state and whatever the error, the names and the table
are as before the build, and every run of builds after it gives the same schemas, raises the same
errors and leaves the same names and the same table as it would have without the failed build. -/
theorem build_failed_no_trace (bp : Blueprint) (d : Descriptor) (s : State) (e : Error)
    (hfails : ((bp.build d).run s).1 = .error e) :
    let after := ((bp.build d).run s).2
    after.refs = s.refs ∧ after.schemas = s.schemas ∧
    ∀ ds,
      (bp.buildAll ds after).1 = (bp.buildAll ds s).1 ∧
      (bp.buildAll ds after).2.refs = (bp.buildAll ds s).2.refs ∧
      (bp.buildAll ds after).2.schemas = (bp.buildAll ds s).2.schemas := by
  intro after
  have hbuild : wp (bp.build d) (bp.Grown (s.registry.schemaOf? bp.env) (fun _ => True) s d)
      (bp.Restored s) s := wp_build (fun _ _ _ _ => trivial) trivial rfl
  have hrestored : bp.Restored s e after := fail_of_run hbuild (Prod.ext hfails rfl)
  refine ⟨hrestored.refs, hrestored.schemas, fun ds => ?_⟩
  obtain ⟨hresults, halike⟩ := hrestored.alike.buildAll ds
  exact ⟨hresults, halike.refs, halike.schemas⟩

open ApiShape.Sample

namespace Sample

/-- Doors, of which the paint has a colour and the key is a class that nothing handles. -/
def doors : Blueprint where
  env := ⟨[
    color,
    { ref := classNamed "Key", shape := .plain },
    dataclass "Paint" [{ name := "color", type := classExpr "Color" }],
    dataclass "Door" [{ name := "paint", type := classExpr "Paint" },
      { name := "key", type := classExpr "Key" }]]⟩

end Sample

open Blueprint.Sample

/-- The build of doors fails at the key, after the paint has been built and the converter of colours
been made. That converter stays, and yet the builds that follow end as on a new builder. -/
theorem build_failed_no_trace_door :
    let new := withTexts []
    let after := ((doors.build (classType "Door")).run new).2
    let later := [classType "Paint", classType "Door"]
    ((doors.build (classType "Door")).run new).1 = .error (.unhandled (classType "Key") none) ∧
    new.registry.types = [] ∧ after.registry.types = [classType "Color"] ∧
    after.refs = ∅ ∧ after.schemas = ∅ ∧
    (doors.buildAll later after).1 = (doors.buildAll later new).1 ∧
    (doors.buildAll later after).2.schemas = (doors.buildAll later new).2.schemas := by
  intro new after later
  have hfails : ((doors.build (classType "Door")).run new).1 =
      .error (.unhandled (classType "Key") none) := rfl
  have htrace : after.refs = new.refs ∧ after.schemas = new.schemas ∧ ∀ ds,
      (doors.buildAll ds after).1 = (doors.buildAll ds new).1 ∧
      (doors.buildAll ds after).2.refs = (doors.buildAll ds new).2.refs ∧
      (doors.buildAll ds after).2.schemas = (doors.buildAll ds new).2.schemas :=
    build_failed_no_trace doors _ new _ hfails
  obtain ⟨hresults, -, htable⟩ := htrace.2.2 later
  exact ⟨hfails, rfl, rfl, htrace.1, htrace.2.1, hresults, htable⟩

end Blueprint

end ApiShape
