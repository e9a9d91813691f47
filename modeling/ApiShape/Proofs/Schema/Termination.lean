import Mathlib.Order.WellFounded
import Mathlib.Order.Preorder.Finite
import ApiShape.Proofs.Budget
import ApiShape.Proofs.Schema.Faithful
import ApiShape.Proofs.Schema.Success

/-!
# When synthesis ends

Synthesis walks along `Refers` and stops at records and sums that it has met before, so it ends
exactly if every infinite walk meets one of them twice.

* **`exists_budget`** — if every walk does, synthesis ends. A walk that remembers the records and
  sums it has met is then finite, and the depth that synthesis needs is found by induction on it.
* **`exists_named`** — if synthesis has ended, every infinite walk keeps coming to types with a
  name. There are finitely many names, so one of the types comes twice.
-/

namespace ApiShape

open Relation (ReflTransGen)

/-- Synthesis finds what it needs at the type: a schema for a leaf, the type behind a wrapper, the
type of the values of a map, the fields of a record. Arrays and sums are never without their parts,
and enumerations never without a schema. -/
def Resolves (env : Environment) (known : Descriptor → Option Schema) (d : Descriptor) : Prop :=
  match env.kind d with
  | .leaf | .unknown => (known d.nonNull).isSome
  | .wrapper => ∃ inner, env.unwrap d = .ok inner
  | .map => known d.nonNull = none → ∃ value, env.item d.nonNull = .ok value
  | .object => known d.nonNull = none → ∃ fields, env.fields d = .ok fields
  | .stream | .enum | .array | .sum => True

variable {env : Environment} {known : Descriptor → Option Schema} {d : Descriptor}

theorem Environment.exists_variants (hkind : env.kind d = .sum) :
    ∃ variants, env.variants d = .ok variants := by
  obtain ⟨origin, args, nullable⟩ := d
  cases origin with
  -- a union has its arguments, a declared class its sealed variants; no other type is a sum
  | union => exact ⟨args, rfl⟩
  | named c =>
    cases c with
    | builtin b =>
      simp only [kind] at hkind
      split at hkind <;> cases hkind
    | declared c =>
      simp only [kind] at hkind
      cases hfind : env.find? c with
      | none => simp [hfind] at hkind
      | some decl =>
        rw [hfind] at hkind
        have hsealed := decl.kind_cases.2 hkind
        simp [variants, Descriptor.nonNull, hfind, hsealed]
  | container c =>
    simp only [kind] at hkind
    split at hkind <;> cases hkind
  | _ => simp [kind] at hkind

/-- A type that resolves has a sound layer. -/
theorem Resolves.isSound {r : Registry} (h : Resolves env (r.schemaOf? env) d) :
    (env.layer (r.schemaOf? env) d).IsSound := by
  have hlayer := layerOf_layer env (r.schemaOf? env) d
  generalize env.layer (r.schemaOf? env) d = layer at hlayer
  rw [Resolves] at h
  cases hlayer with
  -- a layer is unsound only where a wrapper, a field list or a schema is missing
  | stream | inline => trivial
  | wrapper hkind =>
    rw [hkind] at h
    obtain ⟨inner, hinner⟩ := h
    rw [hinner]
    trivial
  | array hkind =>
    obtain ⟨item, hitem⟩ := Environment.exists_item hkind
    rw [hitem]
    trivial
  | map hkind hknown =>
    rw [hkind] at h
    obtain ⟨value, hvalue⟩ := h hknown
    rw [hvalue]
    trivial
  | object hkind hknown =>
    rw [hkind] at h
    obtain ⟨fields, hfields⟩ := h hknown
    rw [Environment.recordContent, hfields]
    trivial
  | sum hkind =>
    obtain ⟨variants, hvariants⟩ := Environment.exists_variants hkind
    rw [Environment.sumContent, hvariants]
    trivial
  -- types without a translation of their own need one from the registry
  | refused hkind hknown =>
    have hsome : (r.schemaOf? env d.nonNull).isSome := by
      rcases hkind with hkind | hkind | hkind
      · rwa [hkind] at h
      · have hkind' : env.kind d.nonNull = .enum := hkind
        exact r.handles_iff.1 (by simp [Registry.handles, hkind'])
      · rwa [hkind] at h
    rw [hknown] at hsome
    cases hsome

/-! ## Chains of references -/

/-- Every infinite chain of references from the type comes to some record or sum twice. -/
def Repeats (env : Environment) (known : Descriptor → Option Schema) (d : Descriptor) : Prop :=
  ∀ c : ℕ → Descriptor, c 0 = d → (∀ i, Refers env known (c i) (c (i + 1))) →
    ∃ i j, i < j ∧ c i = c j ∧ env.IsNamed (c i)

/-- A step of a walk along references that remembers where it has been. It goes on from a record or
a sum only the first time. -/
inductive Visit (env : Environment) (known : Descriptor → Option Schema) :
    List Descriptor × Descriptor → List Descriptor × Descriptor → Prop where
  | step {met : List Descriptor} {d e : Descriptor} (hrefers : Refers env known d e)
      (hnew : env.IsNamed d → d ∉ met) : Visit env known (d :: met, e) (met, d)

/-- What a walk has come by, it remembers. -/
theorem mem_of_visits {f : ℕ → List Descriptor × Descriptor}
    (hsteps : ∀ n, Visit env known (f (n + 1)) (f n)) {i j : ℕ} (hij : i < j) :
    (f i).2 ∈ (f j).1 := by
  induction j with
  | zero => omega
  | succ j ih =>
    have hstep := hsteps j
    have hmem : (f (j + 1)).1 = (f j).2 :: (f j).1 := by
      generalize f (j + 1) = next at hstep ⊢
      generalize f j = now at hstep ⊢
      cases hstep with
      | step => rfl
    rw [hmem]
    rcases Nat.lt_succ_iff_lt_or_eq.1 hij with hlt | rfl
    · exact List.mem_cons_of_mem _ (ih hlt)
    · exact List.mem_cons_self

/-- **If every chain comes to a record or a sum twice, a walk that remembers is finite.** -/
theorem Repeats.acc (h : Repeats env known d) : Acc (Visit env known) ([], d) := by
  by_contra hinfinite
  -- an infinite walk is a chain, and the chain comes to a type that the walk remembers
  obtain ⟨f, hstart, hsteps⟩ := not_acc_iff_exists_descending_chain.1 hinfinite
  have hrefers : ∀ n, Refers env known (f n).2 (f (n + 1)).2 ∧
      (env.IsNamed (f n).2 → (f n).2 ∉ (f n).1) := by
    intro n
    have hstep := hsteps n
    generalize f (n + 1) = next at hstep ⊢
    generalize f n = now at hstep ⊢
    cases hstep with
    | step hrefers hnew => exact ⟨hrefers, hnew⟩
  obtain ⟨i, j, hij, hsame, hnamed⟩ :=
    h (fun n => (f n).2) (by rw [hstart]) fun n => (hrefers n).1
  refine (hrefers j).2 (hsame ▸ hnamed) ?_
  rw [← hsame]
  exact mem_of_visits hsteps hij

/-! ## From chains to synthesis -/

namespace Blueprint

open ApiShape.Action

variable {bp : Blueprint} {region : Descriptor → Prop}

/-- **A finite walk bounds the depth of synthesis**, from every state in which the records and sums
that the walk remembers have their names. -/
theorem exists_budget (hclosed : ∀ d e, region d → Refers bp.env known d e → region e)
    (hsound : ∀ d, region d → (bp.env.layer known d).IsSound)
    {walk : List Descriptor × Descriptor} (hacc : Acc (Visit bp.env known) walk) :
    region walk.2 → ∃ bound, ∀ budget, bound ≤ budget → ∀ (d : Descriptor) (s : State),
      d.nonNull = walk.2 → s.registry.schemaOf? bp.env = known → bp.Quiet region s →
      (∀ e ∈ walk.1, bp.env.IsNamed e → s.refs.get? e ≠ none) →
      wp (bp.synthesise budget d) (fun _ _ => True) (fun _ _ => False) s := by
  induction hacc with
  | intro walk _ ih =>
    obtain ⟨met, d⟩ := walk
    intro hregion
    have hbounds : ∀ t ∈ (bp.env.layer known d).types, ∃ bound, ∀ budget, bound ≤ budget →
        (bp.env.IsNamed d → d ∉ met) → ∀ s : State, s.registry.schemaOf? bp.env = known →
          bp.Quiet region s → (∀ e ∈ d :: met, bp.env.IsNamed e → s.refs.get? e ≠ none) →
          wp (bp.synthesise budget t) (fun _ _ => True) (fun _ _ => False) s := by
      intro t ht
      have hrefers : Refers bp.env known d t.nonNull := refers_iff.2 ⟨t, ht, rfl⟩
      by_cases hnew : bp.env.IsNamed d → d ∉ met
      · -- the walk goes on to the type
        obtain ⟨bound, hbound⟩ := ih _ (.step hrefers hnew) (hclosed d _ hregion hrefers)
        exact ⟨bound, fun budget hle _ s => hbound budget hle t s rfl⟩
      · exact ⟨0, fun _ _ hnew' => absurd hnew' hnew⟩
    obtain ⟨bound, hbound⟩ := exists_bound hbounds
    refine ⟨bound + 1, fun budget hbudget d' s hd hknown hquiet hnames => ?_⟩
    obtain ⟨budget, rfl⟩ : ∃ n, budget = n + 1 := ⟨budget - 1, by omega⟩
    subst hd
    refine wp_visits hclosed hsound (fun _ h => h) hregion hknown hquiet ?_
    intro hnone t ht s₁ hknown₁ hquiet₁ hkeeps hself
    -- a type that the walk remembers has its name, so that synthesis would not have gone on
    have hnew : bp.env.IsNamed d'.nonNull → d'.nonNull ∉ met := fun hnamed hmet =>
      hnames _ hmet hnamed (hnone hnamed)
    refine hbound t ht budget (by omega) hnew s₁ hknown₁ hquiet₁ fun e he hnamed => ?_
    rcases List.mem_cons.1 he with rfl | he
    · exact hself hnamed
    · exact hkeeps e (hnames e he hnamed)

end Blueprint

/-! ## From synthesis to chains -/

/-- **An infinite chain from a type with a schema comes to a type with a name.** Up to there it runs
inside the schema, which is finite. -/
theorem Translates.exists_named {names : Descriptor → Option String} {schema : Schema}
    (h : Translates env known names d schema) : ∀ c : ℕ → Descriptor, c 0 = d.nonNull →
      (∀ i, Refers env known (c i) (c (i + 1))) → ∃ i, env.IsNamed (c i) ∧ names (c i) ≠ none := by
  refine h.layers (motive := fun d _ => ∀ c : ℕ → Descriptor, c 0 = d.nonNull →
    (∀ i, Refers env known (c i) (c (i + 1))) → ∃ i, env.IsNamed (c i) ∧ names (c i) ≠ none)
    ?_ ?_ ?_
  · intro d found hlayer c hstart hrefers
    have hnext := hrefers 0
    rw [hstart, refers_iff, layer_nonNull, hlayer] at hnext
    obtain ⟨t, ht, -⟩ := hnext
    cases ht
  · intro d wrap inner t hlayer _ ih c hstart hrefers
    have hnext := hrefers 0
    rw [hstart, refers_iff, layer_nonNull, hlayer] at hnext
    obtain ⟨t, ht, hnext⟩ := hnext
    obtain rfl := List.mem_singleton.1 ht
    -- what is inside begins at the next type of the chain
    obtain ⟨i, hi⟩ := ih (fun i => c (i + 1)) hnext fun i => hrefers (i + 1)
    exact ⟨i + 1, hi⟩
  · intro d content n hlayer hname c hstart _
    have hnamed : env.IsNamed d := isNamed_of_layer hlayer
    exact ⟨0, by rw [hstart]; exact hnamed, by rw [hstart, hname]; exact Option.some_ne_none n⟩

/-- **With finitely many names, all of them complete, every chain from a type with a schema comes to
a record or a sum twice.** -/
theorem Complete.repeats {names : Descriptor → Option String} {schema : Schema}
    (hcomplete : Complete env known names) (hfinite : {e | names e ≠ none}.Finite)
    (h : Translates env known names d schema) : Repeats env known d.nonNull := by
  intro c hstart hrefers
  have hschema : ∀ i, ∃ t, Translates env known names (c i) t := by
    intro i
    induction i with
    | zero =>
      rw [hstart]
      exact ⟨schema, translates_nonNull.2 h⟩
    | succ i ih =>
      obtain ⟨t, ht⟩ := ih
      exact hcomplete.exists_translates ht (hrefers i)
  -- the chain comes to names again and again
  have hinfinite : {i | env.IsNamed (c i) ∧ names (c i) ≠ none}.Infinite := by
    refine Set.infinite_of_forall_exists_gt fun i => ?_
    obtain ⟨t, ht⟩ := hschema (i + 1)
    have hnonNull : (c (i + 1)).nonNull = c (i + 1) := by
      obtain ⟨e, -, he⟩ := refers_iff.1 (hrefers i)
      rw [he, Descriptor.nonNull_nonNull]
    obtain ⟨j, hj⟩ := ht.exists_named (fun j => c (i + 1 + j)) hnonNull.symm
      fun j => hrefers (i + 1 + j)
    exact ⟨i + 1 + j, hj, by omega⟩
  obtain ⟨i, hi, j, hj, hne, hsame⟩ :=
    hinfinite.exists_ne_map_eq_of_mapsTo (fun i hi => hi.2) hfinite
  rcases Nat.lt_or_gt_of_ne hne with hlt | hlt
  · exact ⟨i, j, hlt, hsame, hi.1⟩
  · exact ⟨j, i, hlt, hsame.symm, hj.1⟩

/-- A table has finitely many keys. -/
theorem Table.finite_keys {κ ν : Type} [DecidableEq κ] (t : Table κ ν) :
    {k | t.get? k ≠ none}.Finite := by
  refine t.keys.finite_toSet.subset fun k hk => ?_
  exact (t.contains_iff k).1 (Option.isSome_iff_ne_none.2 hk)

namespace Blueprint

open ApiShape.Action

variable {bp : Blueprint} {region : Descriptor → Prop} {s : State}

/-- Synthesis does not look at the budget of builds. -/
theorem synthesise_budget (bp : Blueprint) (n budget : ℕ) :
    { bp with budget := n }.synthesise budget = bp.synthesise budget := by
  induction budget with
  | zero =>
    funext d
    rfl
  | succ budget ih =>
    funext d
    rw [synthesise, synthesise, ih]
    rfl

/-- Where synthesis ends well, the build does not run out of its budget. -/
theorem build_ne_exhausted
    (h : wp (bp.synthesise bp.budget d) (fun _ _ => True) (fun _ _ => False) s) :
    ((bp.build d).run s).1 ≠ .error .exhausted := by
  intro hexhausted
  cases hrun : (bp.build d).run s with
  | mk result s' =>
    rw [hrun] at hexhausted
    cases hexhausted
    have hbuild : wp (bp.build d) (fun _ _ => True) (fun _ _ => False) s :=
      wp_build_of_synthesise h
    exact fail_of_run hbuild hrun

/-- A build from no names that ends leaves complete names behind, so every chain repeats. -/
theorem repeats_of_build (bp : Blueprint)
    (hclosed : ∀ d e, region d → Refers bp.env known d e → region e)
    (hsound : ∀ d, region d → (bp.env.layer known d).IsSound) (hlax : bp.strictNames = false)
    (hregion : region d.nonNull) (hknown : s.registry.schemaOf? bp.env = known)
    (hrefs : s.refs = ∅) (hends : ((bp.build d).run s).1 ≠ .error .exhausted) :
    Repeats bp.env known d.nonNull := by
  have hsucceeds := wp_build_of_synthesise (wp_sound hclosed hsound (fun _ h => h) bp.budget d
    s hregion hknown (.inl hlax))
  have hbuild := wp_build hclosed hregion hknown
  cases hrun : (bp.build d).run s with
  | mk result s' =>
    rw [hrun] at hends
    cases result with
    -- on types that resolve nothing but the budget can stop a build
    | error e => exact absurd (congrArg Except.error (fail_of_run hsucceeds hrun)) hends
    -- what was built is named, and names are finite in number
    | ok schema =>
      obtain ⟨hgrows, hschema⟩ := post_of_run hbuild hrun
      have hcomplete : Complete bp.env known s'.refs.get? := by
        intro e n hname
        obtain ⟨-, -, -, t, hbody, -⟩ :=
          hgrows.fresh e n (by rw [hrefs, Table.get?_empty]) hname
        exact ⟨t, hbody⟩
      exact hcomplete.repeats s'.refs.finite_keys hschema

/-- **A build ends, for some depth of nesting, exactly if every infinite chain of references from
the type comes to some record or sum twice**, provided that every type within reach resolves, names
are not strict, and no name has been handed out yet. -/
theorem build_ends_iff (bp : Blueprint) (d : Descriptor) (s : State)
    (hlax : bp.strictNames = false) (hrefs : s.refs = ∅)
    (hresolves : ∀ e, ReflTransGen (Refers bp.env (s.registry.schemaOf? bp.env)) d.nonNull e →
      Resolves bp.env (s.registry.schemaOf? bp.env) e) :
    (∃ budget, (({ bp with budget := budget }.build d).run s).1 ≠ .error .exhausted) ↔
      Repeats bp.env (s.registry.schemaOf? bp.env) d.nonNull := by
  have hclosed : ∀ e f, ReflTransGen (Refers bp.env (s.registry.schemaOf? bp.env)) d.nonNull e →
      Refers bp.env (s.registry.schemaOf? bp.env) e f →
      ReflTransGen (Refers bp.env (s.registry.schemaOf? bp.env)) d.nonNull f :=
    fun _ _ hreach hrefers => hreach.tail hrefers
  have hsound := fun e hreach => (hresolves e hreach).isSound
  constructor
  · -- an end that was reached shows that types repeat
    rintro ⟨budget, hends⟩
    exact repeats_of_build { bp with budget := budget } hclosed hsound hlax .refl rfl hrefs hends
  · -- types that repeat leave finitely many to visit, and the budget can be that large
    intro hrepeats
    obtain ⟨budget, hbudget⟩ := exists_budget hclosed hsound hrepeats.acc .refl
    have hsucceeds := hbudget budget (Nat.le_refl _) d s rfl rfl (.inl hlax)
      fun e he => by cases he
    rw [← synthesise_budget bp budget budget] at hsucceeds
    exact ⟨budget, build_ne_exhausted hsucceeds⟩

open ApiShape.Sample Blueprint.Sample

/-- From routes, nothing but routes, points and texts is within reach, and all of these resolve. So
every infinite chain from routes comes to a record twice. -/
theorem repeats_route :
    Repeats routes.env (textual.registry.schemaOf? routes.env)
      (classType "Route") := by
  have hclosed : ∀ d ∈ [classType "Route", classType "Point", .ofBuiltin .str],
      ∀ t ∈ (routes.env.layer
        (textual.registry.schemaOf? routes.env) d).types,
        t.nonNull ∈ [classType "Route", classType "Point", .ofBuiltin .str] := by decide
  refine (build_ends_iff routes (classType "Route") textual rfl rfl ?_).1
    ⟨4, ?_⟩
  · intro e hreach
    have hmem := mem_of_reach hclosed hreach (.head _)
    simp only [List.mem_cons, List.not_mem_nil, or_false] at hmem
    rcases hmem with rfl | rfl | rfl
    · exact fun _ => ⟨_, rfl⟩
    · exact fun _ => ⟨_, rfl⟩
    · exact rfl
  · have hends : (({ routes with budget := 4 }.build (classType "Route")).run
        textual).1 = .ok (.ref "Route") := rfl
    rw [hends]
    exact fun h => nomatch h

/-! ## Registered arrays

A wrapper of a list of itself never comes to a record or a sum. A converter registered for the list
ends synthesis nonetheless, so the types with a known schema have to count as leaves. -/

namespace Sample

/-- Loops, which wrap lists of loops. -/
def loops : Blueprint where
  env := ⟨[wrapperClass "Loop" (.sequence .list (classExpr "Loop")) []]⟩

/-- Lists of loops. -/
def listOfLoops : Descriptor := .array .list (classType "Loop")

/-- Where nothing is registered, loops lead to lists of loops and these to loops. -/
theorem mem_of_reach_loop {d e : Descriptor}
    (hreach : ReflTransGen (Refers loops.env fun _ => none) d e)
    (hd : d ∈ [classType "Loop", listOfLoops]) : e ∈ [classType "Loop", listOfLoops] := by
  have hclosed : ∀ d ∈ [classType "Loop", listOfLoops],
      ∀ t ∈ (loops.env.layer (fun _ => none) d).types,
        t.nonNull ∈ [classType "Loop", listOfLoops] := by decide
  exact mem_of_reach hclosed hreach hd

/-- The chain of references from loops. -/
def loopChain (i : ℕ) : Descriptor := if i % 2 = 0 then classType "Loop" else listOfLoops

theorem refers_loopChain (i : ℕ) :
    Refers loops.env (fun _ => none) (loopChain i) (loopChain (i + 1)) := by
  rw [refers_iff]
  rcases Nat.mod_two_eq_zero_or_one i with hi | hi
  · have hnext : (i + 1) % 2 = 1 := by omega
    refine ⟨listOfLoops, ?_, ?_⟩
    · rw [loopChain, if_pos hi]
      decide
    · rw [loopChain, hnext]
      rfl
  · have hnext : (i + 1) % 2 = 0 := by omega
    refine ⟨classType "Loop", ?_, ?_⟩
    · rw [loopChain, hi]
      decide
    · rw [loopChain, if_pos hnext]
      rfl

end Sample

/-- **Synthesis ends at a registered array even where no chain of references from it comes to a
record or a sum**, were such an array to refer to its items. -/
theorem registered_array_ends :
    let s := withTexts [listOfLoops]
    (∀ e, ReflTransGen (Refers loops.env fun _ => none) (classType "Loop").nonNull e →
      Resolves loops.env (s.registry.schemaOf? loops.env) e) ∧
    (∃ budget, (({ loops with budget := budget }.build (classType "Loop")).run s).1 ≠
      .error .exhausted) ∧
    ¬Repeats loops.env (fun _ => none) (classType "Loop").nonNull := by
  intro s
  refine ⟨?_, ⟨2, ?_⟩, ?_⟩
  · intro e hreach
    have hmem := mem_of_reach_loop hreach (.head _)
    rcases List.mem_pair.1 hmem with rfl | rfl
    · exact ⟨listOfLoops, rfl⟩
    · trivial
  · have hends : (({ loops with budget := 2 }.build (classType "Loop")).run s).1 =
        .ok .string := rfl
    rw [hends]
    exact fun h => nomatch h
  · intro hrepeats
    obtain ⟨i, -, -, -, hnamed⟩ := hrepeats loopChain rfl refers_loopChain
    -- neither loops nor lists of them are records or sums
    have hchain : loopChain i ∈ [classType "Loop", listOfLoops] := by
      rw [loopChain]
      split <;> simp
    rcases List.mem_pair.1 hchain with heq | heq
    · rw [heq] at hnamed
      exact absurd hnamed (by decide)
    · rw [heq] at hnamed
      exact absurd hnamed (by decide)

end Blueprint

end ApiShape
