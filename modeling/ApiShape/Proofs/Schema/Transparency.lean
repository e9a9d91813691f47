import ApiShape.Proofs.Schema.Exposure

/-!
# Wrappers leave no trace in schemas

Replacing wrappers by what they wrap, in a type or in the fields of declared classes, changes no
schema.

* **`build_retyped`** — every build comes to the same, with the same names, the same table and the
  same collisions, provided that the fields of records admit null as before.
* `nullable_wrapped_not_required` — a wrapper around a type that admits null admits none itself.
  Put in its place, the type that it wraps makes a field optional; the properties stay what they are
  (`OneLevel.of_alike`).
-/

namespace ApiShape

variable {env env' : Environment} {known : Descriptor → Option Schema}
  {names : Descriptor → Option String} {d : Descriptor}

theorem forall₂_transfer {α β γ : Type} {S : α → β → Prop} {P : α → γ → Prop} {Q : β → γ → Prop}
    {xs : List α} {ys : List β} {zs : List γ} (h : List.Forall₂ S xs ys)
    (hP : List.Forall₂ P xs zs) (hstep : ∀ x y z, S x y → P x z → Q y z) :
    List.Forall₂ Q ys zs := by
  induction h generalizing zs with
  | nil =>
    cases hP
    exact .nil
  | cons hxy _ ih =>
    cases hP with
    | cons hxz hrest => exact .cons (hstep _ _ _ hxy hxz) (ih hrest)

/-- **A record whose fields have related types has the same properties.** -/
theorem OneLevel.of_alike {S : Field → Field → Prop} {properties : List (String × Schema)}
    {required : List String} (hkind : env'.kind d = env.kind d)
    (hfields : Alike (List.Forall₂ S) (env.fields d) (env'.fields d))
    (hname : ∀ f f', S f f' → f'.name = f.name ∧ f'.wireName = f.wireName)
    (htype : ∀ f f', S f f' → ∀ schema, Translates env known names f.type schema →
      Translates env' known names f'.type schema)
    (h : OneLevel env known names d (.object properties required)) :
    ∃ required', OneLevel env' known names d (.object properties required') := by
  cases h with
  | @object fields schemas _ _ hobject hknown hok hschemas hkeys hproperties _ =>
    rw [hok] at hfields
    generalize hok' : env'.fields d = result at hfields
    cases hfields with
    | @ok _ fields' hall =>
      have hvisible : List.Forall₂ S (fields.filter Blueprint.isVisible)
          (fields'.filter Blueprint.isVisible) := by
        refine List.rel_filter (fun f f' hf => ?_) hall
        show Blueprint.isVisible f = true ↔ Blueprint.isVisible f' = true
        rw [isVisible_congr (hname f f' hf).1]
      have hwire : (fields'.filter Blueprint.isVisible).map (·.wireName) =
          (fields.filter Blueprint.isVisible).map (·.wireName) :=
        map_eq_of_forall₂ (hvisible.flip.imp fun f' f hf => (hname f f' hf).2)
      refine ⟨_, .object (hkind.trans hobject) hknown hok' ?_ hkeys (hwire ▸ hproperties) rfl⟩
      exact forall₂_transfer hvisible hschemas fun f f' schema hf => htype f f' hf schema

namespace Blueprint

/-- **Replacing wrappers by what they wrap changes no schema.** If the fields of records admit null
as before, every build comes to the same and leaves the same state behind. In any case all records
have the same properties and, unless names are strict, every build comes to the same schema or error
and leaves the same names behind. -/
theorem build_retyped (bp : Blueprint) (env' : Environment) (keep : Prop) (s : State)
    (h : bp.env.Retyped (s.registry.schemaOf? bp.env) keep env') :
    (keep → ∀ d d', Exposes bp.env (s.registry.schemaOf? bp.env) d d' →
      Reaches (fun s t => t = s) bp { bp with env := env' } d d' s ∧
        Reaches (fun s t => t = s) { bp with env := env' } bp d' d s) ∧
    (bp.strictNames = false → ∀ d d', Exposes bp.env (s.registry.schemaOf? bp.env) d d' →
      Reaches SameNames bp { bp with env := env' } d d' s ∧
        Reaches SameNames { bp with env := env' } bp d' d s) ∧
    ∀ names d properties,
      (∃ required, OneLevel bp.env (s.registry.schemaOf? bp.env) names d
        (.object properties required)) ↔
      ∃ required, OneLevel env' (s.registry.schemaOf? bp.env) names d
        (.object properties required) := by
  have hresolve : ∀ r : Registry, r.resolve bp.env = r.resolve env' :=
    fun r => (h.resolve_eq r).symm
  -- what the registry knows is known in either environment, so the replacement can be undone
  have hback : Aligned env' bp.env (s.registry.schemaOf? env')
      (flip (Exposes bp.env (s.registry.schemaOf? bp.env))) keep := by
    rw [Registry.schemaOf?_congr (h.resolve_eq s.registry)]
    exact h.aligned.flip
  refine ⟨fun hkeep d d' hd => ⟨?_, ?_⟩, fun hlax d d' hd => ⟨?_, ?_⟩,
    fun names d properties => ⟨?_, ?_⟩⟩
  · exact reaches_eq rfl rfl h.resolve_eq hkeep h.aligned hd
  · exact reaches_eq rfl rfl hresolve hkeep hback hd
  · exact reaches_sameNames rfl hlax hlax h.resolve_eq h.aligned hd
  · exact reaches_sameNames rfl hlax hlax hresolve hback hd
  · rintro ⟨required, hbody⟩
    exact hbody.of_alike (h.kind_eq d) (h.alike_fields d) (fun f f' hf => ⟨hf.name, hf.wireName⟩)
      fun f f' hf schema ht => ht.of_related h.aligned hf.type
  · rintro ⟨required, hbody⟩
    exact hbody.of_alike (h.kind_eq d).symm
      ((h.alike_fields d).flip.imp fun _ _ => List.Forall₂.flip)
      (fun f' f hf => ⟨hf.name.symm, hf.wireName.symm⟩)
      fun f' f hf schema ht => ht.of_related h.aligned.flip hf.type

open ApiShape.Sample

namespace Sample

/-- Orders with prices of the type in each place, where a price wraps the other type. -/
def orders (wrapped price : TypeExpr) : Blueprint where
  env := ⟨[
    wrapperClass "Price" wrapped [],
    dataclass "Order" [{ name := "total", type := price },
      { name := "items", type := .sequence .list price },
      { name := "rates", type := .mapping .dict text price }]]⟩

/-- The type of prices. -/
def price : TypeExpr := classExpr "Price"

/-- A new builder with converters for whole numbers and texts. -/
def plain : State := withTexts [.ofBuiltin .int, .ofBuiltin .str]

/-- Where prices wrap whole numbers, these can take the place of prices in orders. -/
theorem retyped_orders :
    (orders number price).env.Retyped (plain.registry.schemaOf? (orders number price).env) True
      (orders number number).env := by
  have hprice : Exposes (orders number price).env
      (plain.registry.schemaOf? (orders number price).env) (classType "Price") (.ofBuiltin .int) :=
    .unwrapped (.step rfl rfl (.refl _))
  have hfields : List.Forall₂ (FieldDecl.Retyped (orders number price).env
      (plain.registry.schemaOf? (orders number price).env) True)
      [{ name := "total", type := price }, { name := "items", type := .sequence .list price },
        { name := "rates", type := .mapping .dict text price }]
      [{ name := "total", type := number }, { name := "items", type := .sequence .list number },
        { name := "rates", type := .mapping .dict text number }] := by
    refine .cons ⟨rfl, rfl, fun σ => ?_⟩ (.cons ⟨rfl, rfl, fun σ => ?_⟩
      (.cons ⟨rfl, rfl, fun σ => ?_⟩ .nil))
    · exact .ok ⟨hprice, fun _ _ => rfl⟩
    · exact .ok ⟨.array (.refl _) hprice rfl, fun _ _ => rfl⟩
    · exact .ok ⟨.map (.refl _) hprice rfl, fun _ _ => rfl⟩
  refine .cons ⟨rfl, .same _, rfl⟩ (.cons ⟨rfl, ?_, rfl⟩ .nil)
  exact .record ⟨rfl, hfields⟩ fun τ => ⟨rfl, hfields⟩

end Sample

open Blueprint.Sample

/-- With whole numbers in place of prices, the entry of orders is what it was. -/
theorem build_retyped_order :
    (orders number price).env.Retyped (plain.registry.schemaOf? (orders number price).env) True
      (orders number number).env ∧
    ∃ budget after, ({ orders number number with budget := budget }.build
        (classType "Order")).run plain = (.ok (.ref "Order"), after) ∧
      after.schemas.get? "Order" = some (.object
        [("total", .string), ("items", .array .string), ("rates", .map .string)]
        ["total", "items", "rates"]) := by
  refine ⟨retyped_orders, ?_⟩
  have hsame := (build_retyped (orders number price) _ True plain retyped_orders).1 trivial _ _
    (.refl (classType "Order"))
  -- the build with prices is run, and the other one leaves the same state behind
  obtain ⟨budget, after, hrun, rfl⟩ := hsame.1 4 (.ok (.ref "Order")) _ rfl nofun
  exact ⟨budget, _, hrun, rfl⟩

/-- **A wrapper around a type that admits null admits none**: a field of the wrapper is required, a
field of the type that it wraps is not. -/
theorem nullable_wrapped_not_required :
    let optional : TypeExpr := .union [number, .null]
    let wrapped := ((orders optional price).build (classType "Order")).run plain
    let bare := ((orders optional optional).build (classType "Order")).run plain
    let properties := [("total", .string), ("items", .array .string), ("rates", .map .string)]
    (orders optional price).env.unwrap (classType "Price") =
      .ok ((Descriptor.ofBuiltin .int).withNullable true) ∧
    wrapped.1 = .ok (.ref "Order") ∧ bare.1 = .ok (.ref "Order") ∧
    wrapped.2.schemas.get? "Order" = some (.object properties ["total", "items", "rates"]) ∧
    bare.2.schemas.get? "Order" = some (.object properties ["items", "rates"]) :=
  ⟨rfl, rfl, rfl, rfl, rfl⟩

end Blueprint

end ApiShape
