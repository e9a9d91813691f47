import ApiShape.Proofs.Schema.Coupling

/-!
# Types with their wrappers replaced

Declarations in which the types of fields are written with what wrappers wrap in place of the
wrappers, and what that changes of the types that they declare.

* **`Exposes`** — a type and the same one with wrappers replaced by what they wrap.
* **`Environment.Retyped`** — declarations and the same ones with such types for fields. The rest of
  a declaration is as it was (`kind_eq`, `resolve_eq` and so on), and fields and wrapped types are
  related again (`alike_fields`, `alike_unwrap`).
* **`Environment.Retyped.aligned`** — so a type and the one that it exposes are of one level, over
  types that are related in the same way.
-/

namespace ApiShape

open Blueprint (isVisible objectSchema)

/-! ## Replacement -/

/-- The second type is the first one with wrappers replaced by what they wrap: those around the type
itself, around the items of an array and around the values of a map. Null may be admitted or not. An
array or a map is changed only if the same is known of it before and after. -/
inductive Exposes (env : Environment) (known : Descriptor → Option Schema) :
    Descriptor → Descriptor → Prop
  | unwrapped {d d' : Descriptor} (h : Unwraps env d d'.nonNull) : Exposes env known d d'
  | array {d item item' : Descriptor} {c : Container} {nullable : Bool}
      (h : Unwraps env d (.array c item)) (hitem : Exposes env known item item')
      (hknown : known (.array c item) = known (.array c item')) :
      Exposes env known d ((Descriptor.array c item').withNullable nullable)
  | map {d key value value' : Descriptor} {nullable : Bool} (h : Unwraps env d (.map key value))
      (hvalue : Exposes env known value value')
      (hknown : known (.map key value) = known (.map key value')) :
      Exposes env known d ((Descriptor.map key value').withNullable nullable)

/-- The field takes part in schemas. -/
def FieldDecl.isVisible (f : FieldDecl) : Bool := !"_".toList.isPrefixOf f.name.toList

variable (env : Environment) (known : Descriptor → Option Schema) (keep : Prop)

/-- The field is declared with wrappers replaced in its type. If `keep` holds and it takes part in
schemas, it admits null as before. -/
structure FieldDecl.Retyped (f f' : FieldDecl) : Prop where
  same : f' = { f with type := f'.type }
  notes : f'.type.notes = f.type.notes
  type : ∀ σ, Alike (fun d d' => Exposes env known d d' ∧
      (keep → f.isVisible = true → d'.nullable = d.nullable))
    (Environment.describeField σ f.type) (Environment.describeField σ f'.type)

structure RecordDef.Retyped (r r' : RecordDef) : Prop where
  form : r'.form = r.form
  fields : List.Forall₂ (FieldDecl.Retyped env known keep) r.fields r'.fields

/-- The record with type variables replaced in its fields. -/
def RecordDef.subst (τ : String → Option TypeExpr) (r : RecordDef) : RecordDef :=
  { r with fields := r.fields.map fun f => { f with type := f.type.subst τ } }

/-- Fields may be retyped, in the class itself and in whatever it is specialised to. -/
inductive Shape.Retyped : Shape → Shape → Prop
  | same (shape : Shape) : Retyped shape shape
  | record {r r' : RecordDef} (h : r.Retyped env known keep r')
      (hsubst : ∀ τ, (r.subst τ).Retyped env known keep (r'.subst τ)) :
      Retyped (.record r) (.record r')

/-- The declaration is the same but for the types of its fields. -/
structure Declaration.Retyped (decl decl' : Declaration) : Prop where
  same : decl' = { decl with shape := decl'.shape, hints := decl'.hints }
  shape : decl.shape.Retyped env known keep decl'.shape
  hints : TypeExpr.unresolvedIn? decl'.hints = TypeExpr.unresolvedIn? decl.hints

/-- The declarations are the same one by one but for the types of fields, in which wrappers may have
been replaced by what they wrap. -/
def Environment.Retyped (env' : Environment) : Prop :=
  List.Forall₂ (Declaration.Retyped env known keep) env.declarations env'.declarations

/-- The field of a type has another type, in which wrappers have been replaced. -/
structure Field.Retyped (f f' : Field) : Prop where
  name : f'.name = f.name
  wireName : f'.wireName = f.wireName
  type : Exposes env known f.type f'.type
  nullable : keep → isVisible f = true → f'.type.nullable = f.type.nullable

variable {env env' : Environment} {known : Descriptor → Option Schema} {keep : Prop}
  {d d' : Descriptor}

theorem Exposes.refl (d : Descriptor) : Exposes env known d d := .unwrapped (.refl d)

theorem FieldDecl.Retyped.refl (f : FieldDecl) : f.Retyped env known keep f where
  same := rfl
  notes := rfl
  type _ := (Alike.refl _).imp fun d _ heq => heq ▸ ⟨.refl d, fun _ _ => rfl⟩

theorem RecordDef.Retyped.refl (r : RecordDef) : r.Retyped env known keep r where
  form := rfl
  fields := List.forall₂_same.2 fun f _ => .refl f

/-! ## What a declaration says -/

namespace Declaration.Retyped

variable {decl decl' : Declaration}

/-- A declaration that is retyped has the shape it had, unless it is a record, which then has
retyped fields under every substitution. -/
theorem shape_cases (h : decl.Retyped env known keep decl') :
    decl'.shape = decl.shape ∨ ∃ r r', decl.shape = .record r ∧ decl'.shape = .record r' ∧
      r.Retyped env known keep r' ∧ ∀ τ, (r.subst τ).Retyped env known keep (r'.subst τ) := by
  have hshape := h.shape
  generalize decl.shape = shape at hshape ⊢
  generalize decl'.shape = shape' at hshape ⊢
  cases hshape with
  | same => exact .inl rfl
  | record h hsubst => exact .inr ⟨_, _, rfl, rfl, h, hsubst⟩

/-- Retyping changes the kind of no declaration. -/
theorem kind_eq (h : decl.Retyped env known keep decl') : decl'.kind = decl.kind := by
  have hmarks : decl'.streamForm? = decl.streamForm? ∧ decl'.isWrapper = decl.isWrapper ∧
      decl'.isSealed = decl.isSealed := by
    rw [h.same]
    exact ⟨rfl, rfl, rfl⟩
  unfold Declaration.kind
  rw [hmarks.1, hmarks.2.1, hmarks.2.2]
  rcases h.shape_cases with hshape | ⟨r, r', hshape, hshape', -⟩
  · rw [hshape]
  · rw [hshape, hshape']

theorem record?_rel (h : decl.Retyped env known keep decl') :
    Option.Rel (fun r r' => r.Retyped env known keep r' ∧
      ∀ τ, (r.subst τ).Retyped env known keep (r'.subst τ)) decl.record? decl'.record? := by
  unfold Declaration.record?
  rcases h.shape_cases with hshape | ⟨r, r', hshape, hshape', hr⟩
  · rw [hshape]
    cases decl.shape with
    | record r => exact .some ⟨.refl r, fun τ => .refl (r.subst τ)⟩
    | _ => exact .none
  · rw [hshape, hshape']
    exact .some hr

end Declaration.Retyped

namespace Environment

namespace Retyped

variable (h : env.Retyped known keep env')

include h

/-- A class is declared before exactly if it is after, by a retyped declaration. -/
theorem find?_cases (c : ClassRef) :
    env.find? c = none ∧ env'.find? c = none ∨
      ∃ decl decl', env.find? c = some decl ∧ env'.find? c = some decl' ∧
        decl.Retyped env known keep decl' := by
  unfold find?
  unfold Environment.Retyped at h
  generalize env.declarations = decls at h ⊢
  generalize env'.declarations = decls' at h ⊢
  induction h with
  | nil => exact .inl ⟨rfl, rfl⟩
  | @cons decl decl' decls decls' hdecl _ ih =>
    have href : decl'.ref = decl.ref := by rw [hdecl.same]
    rw [List.find?_cons, List.find?_cons, href]
    cases decl.ref.id == c.id with
    | true => exact .inr ⟨decl, decl', rfl, rfl, hdecl⟩
    | false => exact ih

/-- What is the same of a declaration is the same of whatever declaration a class has. -/
theorem bind_find? {α : Type} {f : Declaration → Option α}
    (hf : ∀ decl decl', decl.Retyped env known keep decl' → f decl' = f decl) (c : ClassRef) :
    (env'.find? c).bind f = (env.find? c).bind f := by
  rcases h.find?_cases c with ⟨hnone, hnone'⟩ | ⟨decl, decl', hfound, hfound', hdecl⟩
  · rw [hnone, hnone']
  · rw [hfound, hfound']
    exact hf decl decl' hdecl

/-- What retyping does not change about declarations is the same for each class. -/
theorem map_find? {α : Type} {f : Declaration → α}
    (hf : ∀ decl decl', decl.Retyped env known keep decl' → f decl' = f decl) (c : ClassRef) :
    (env'.find? c).map f = (env.find? c).map f := by
  rw [Option.map_eq_bind, Option.map_eq_bind]
  exact h.bind_find? (fun decl decl' hdecl => congrArg some (hf decl decl' hdecl)) c

/-- Types are of the same kind before and after. -/
theorem kind_eq (d : Descriptor) : env'.kind d = env.kind d := by
  obtain ⟨origin, args, nullable⟩ := d
  cases origin with
  | named c =>
    cases c with
    | builtin => rfl
    | declared c =>
      show ((env'.find? c).map (·.kind)).getD .leaf = ((env.find? c).map (·.kind)).getD .leaf
      rw [h.map_find? (fun _ _ hdecl => hdecl.kind_eq) c]
  | _ => rfl

theorem enumeration?_eq (o : Origin) : env'.enumeration? o = env.enumeration? o := by
  cases o with
  | named c =>
    cases c with
    | builtin => rfl
    | declared c =>
      refine h.bind_find? (fun decl decl' hdecl => ?_) c
      have hmarks : decl'.ref = decl.ref ∧ decl'.isStrict = decl.isStrict := by
        rw [hdecl.same]
        exact ⟨rfl, rfl⟩
      rw [hmarks.1, hmarks.2]
      rcases hdecl.shape_cases with hshape | ⟨r, r', hshape, hshape', -⟩
      · rw [hshape]
      · rw [hshape, hshape']
  | _ => rfl

/-- A registry gives the same converters before and after. -/
theorem resolve_eq (r : Registry) : r.resolve env' = r.resolve env := by
  funext d
  unfold Registry.resolve
  simp only [h.enumeration?_eq]

theorem newtype?_eq (o : Origin) : env'.newtype? o = env.newtype? o := by
  cases o with
  | named c =>
    cases c with
    | builtin => rfl
    | declared c =>
      refine h.bind_find? (fun decl decl' hdecl => ?_) c
      rcases hdecl.shape_cases with hshape | ⟨r, r', hshape, hshape', -⟩
      · rw [hshape]
      · rw [hshape, hshape']
  | _ => rfl

theorem isClass_eq (o : Origin) : env'.isClass o = env.isClass o := by
  cases o with
  | named c =>
    cases c with
    | builtin => rfl
    | declared c =>
      unfold isClass
      rcases h.find?_cases c with ⟨hnone, hnone'⟩ | ⟨decl, decl', hfound, hfound', hdecl⟩
      · simp only [hnone, hnone']
      · simp only [hfound, hfound']
        rcases hdecl.shape_cases with hshape | ⟨r, r', hshape, hshape', -⟩
        · rw [hshape]
        · rw [hshape, hshape']
  | _ => rfl

/-- Type variables stand for the same arguments before and after. -/
theorem bindings_eq (d : Descriptor) : env'.bindings d = env.bindings d := by
  unfold bindings
  cases d.origin with
  | named c =>
    cases c with
    | builtin => rfl
    | declared c =>
      have hparams : (env'.find? c).map (·.params) = (env.find? c).map (·.params) := by
        refine h.map_find? (fun decl decl' hdecl => ?_) c
        rw [hdecl.same]
      exact congrArg (fun params => (params.getD []).zip d.args) hparams
  | _ => rfl

/-- The same names are unresolved before and after. -/
theorem unresolvedIn?_hints (o : Origin) :
    TypeExpr.unresolvedIn? (env'.hints o) = TypeExpr.unresolvedIn? (env.hints o) := by
  cases o with
  | named c =>
    cases c with
    | builtin => rfl
    | declared c =>
      unfold hints
      rcases h.find?_cases c with ⟨hnone, hnone'⟩ | ⟨decl, decl', hfound, hfound', hdecl⟩
      · simp only [hnone, hnone']
      · simp only [hfound, hfound']
        exact hdecl.hints
  | _ => rfl

theorem subclasses_eq (c : ClassRef) : env'.subclasses c = env.subclasses c := by
  unfold subclasses
  unfold Environment.Retyped at h
  generalize env.declarations = decls at h ⊢
  generalize env'.declarations = decls' at h ⊢
  induction h with
  | nil => rfl
  | @cons decl decl' decls decls' hdecl _ ih =>
    have hmarks : decl'.ref = decl.ref ∧ decl'.parents = decl.parents := by
      rw [hdecl.same]
      exact ⟨rfl, rfl⟩
    rw [List.filter_cons, List.filter_cons, hmarks.2]
    split
    · rw [List.map_cons, List.map_cons, ih, hmarks.1]
    · exact ih

/-- Sums have the same variants before and after. -/
theorem variants_eq (d : Descriptor) : env'.variants d = env.variants d := by
  obtain ⟨origin, args, nullable⟩ := d
  cases origin with
  | named c =>
    cases c with
    | builtin => rfl
    | declared c =>
      unfold variants
      rcases h.find?_cases c with ⟨hnone, hnone'⟩ | ⟨decl, decl', hfound, hfound', hdecl⟩
      · simp only [Descriptor.nonNull, hnone, hnone']
      · have hsealed : decl'.isSealed = decl.isSealed := by rw [hdecl.same]
        simp only [Descriptor.nonNull, hfound, hfound', hsealed, h.subclasses_eq]
  | _ => rfl

/-- The records of a class are retyped. -/
theorem record?_rel (o : Origin) :
    Option.Rel (RecordDef.Retyped env known keep) (env.record? o) (env'.record? o) := by
  cases o with
  | named c =>
    cases c with
    -- built-in records are fixed
    | builtin b =>
      show Option.Rel _ (builtinRecord? b) (builtinRecord? b)
      cases builtinRecord? b with
      | none => exact .none
      | some r => exact .some (.refl r)
    | declared c =>
      -- declared ones are found in both or in neither
      rcases h.find?_cases c with ⟨hnone, hnone'⟩ | ⟨decl, decl', hfound, hfound', hdecl⟩
      · simp only [record?, hnone, hnone', Option.bind_none]
        exact .none
      · have hrecord := hdecl.record?_rel
        simp only [record?, hfound, hfound', Option.bind_some]
        generalize decl.record? = r at hrecord ⊢
        generalize decl'.record? = r' at hrecord ⊢
        cases hrecord with
        | none => exact .none
        | some hr => exact .some hr.1
  -- a specialisation takes its class, and gives it the same arguments
  | specialised c args =>
    rcases h.find?_cases c with ⟨hnone, hnone'⟩ | ⟨decl, decl', hfound, hfound', hdecl⟩
    · simp only [record?, hnone, hnone', Option.bind_eq_bind, Option.bind_none]
      exact .none
    · have hparams : decl'.params = decl.params := by rw [hdecl.same]
      have hrecord := hdecl.record?_rel
      simp only [record?, hfound, hfound', Option.bind_eq_bind, Option.bind_some, hparams]
      generalize decl.record? = r at hrecord ⊢
      generalize decl'.record? = r' at hrecord ⊢
      cases hrecord with
      | none => exact .none
      | some hr => exact .some (hr.2 _)
  | _ => exact .none

end Retyped

end Environment

/-! ## Fields and wrapped types -/

/-- A retyped field is described alike: it can be described or not as before, and differs at most in
its type. -/
theorem FieldDecl.Retyped.alike_field {f f' : FieldDecl} (h : f.Retyped env known keep f')
    (key : String) (σ : Bindings) :
    Alike (Field.Retyped env known keep)
      (do return f.toField key (← Environment.describeField σ f.type))
      (do return f'.toField key (← Environment.describeField σ f'.type)) := by
  refine (h.type σ).bind fun d d' hd => .ok ?_
  -- a field is made from the notes on its type, which are the same
  have hfield : f'.toField key d' = { f.toField key d with type := d' } := by
    have hnotes := h.notes
    rw [h.same]
    unfold FieldDecl.toField
    dsimp only
    rw [hnotes]
    cases parameterNote? f.type.notes <;> rfl
  rw [hfield]
  refine ⟨rfl, rfl, ?_, fun hkeep hvisible => ?_⟩
  · rw [FieldDecl.toField_type]
    exact hd.1
  · rw [FieldDecl.toField_type]
    refine hd.2 hkeep ?_
    rwa [Blueprint.isVisible, FieldDecl.toField_name] at hvisible

namespace Environment.Retyped

variable (h : env.Retyped known keep env')

include h

/-- The fields of a type can be listed as before, and each of them is retyped. -/
theorem alike_fields (d : Descriptor) :
    Alike (List.Forall₂ (Field.Retyped env known keep)) (env.fields d) (env'.fields d) := by
  have hrecord := h.record?_rel d.nonNull.origin
  unfold fields
  simp only [h.isClass_eq, h.bindings_eq, h.unresolvedIn?_hints]
  split
  · exact .error _
  · generalize env.record? d.nonNull.origin = r at hrecord ⊢
    generalize env'.record? d.nonNull.origin = r' at hrecord ⊢
    cases hrecord with
    | none => exact .error _
    | @some r r' hr =>
      have hsettable : List.Forall₂ (FieldDecl.Retyped env known keep)
          (r.fields.filter (·.settable)) (r'.fields.filter (·.settable)) := by
        refine List.rel_filter (fun f f' hf => ?_) hr.fields
        rw [hf.same]
      dsimp only
      rw [hr.form]
      cases r.form with
      | model =>
        refine Alike.mapM hr.fields fun f f' hf => ?_
        have hkey : textOr f'.wireAlias f'.name = textOr f.wireAlias f.name := by rw [hf.same]
        rw [hkey]
        exact hf.alike_field _ _
      | dataclass | namedTuple =>
        -- unlike those of a model, the fields are asked for only if all hints are resolved
        cases TypeExpr.unresolvedIn? (env.hints d.nonNull.origin) with
        | some name => exact .error _
        | none =>
          refine Alike.mapM hsettable fun f f' hf => ?_
          have hname : f'.name = f.name := by rw [hf.same]
          rw [hname]
          exact hf.alike_field _ _

/-- A wrapper can be unwrapped as before, and gives a type that exposes what it did. -/
theorem alike_unwrap (d : Descriptor) :
    Alike (Exposes env known) (env.unwrap d) (env'.unwrap d) := by
  have hfields := h.alike_fields d.nonNull
  unfold unwrap
  simp only [h.kind_eq, h.newtype?_eq]
  split
  · exact .error _
  · cases env.newtype? d.nonNull.origin with
    | some of => exact (Alike.refl _).imp fun d _ heq => heq ▸ .refl d
    | none =>
      refine hfields.bind fun fields fields' hall => ?_
      cases hall with
      | nil => exact .error _
      | cons hfirst hrest =>
        cases hrest with
        | nil => exact .ok hfirst.type
        | cons => exact .error _

end Environment.Retyped

/-! ## One level -/

theorem isVisible_congr {f f' : Field} (h : f'.name = f.name) : isVisible f' = isVisible f := by
  unfold isVisible
  rw [h]

theorem map_eq_of_forall₂ {α β γ : Type} {f : α → γ} {g : β → γ} {xs : List α} {ys : List β}
    (h : List.Forall₂ (fun x y => f x = g y) xs ys) : xs.map f = ys.map g := by
  have hsame : List.Forall₂ (· = ·) (xs.map f) (ys.map g) := by
    rwa [List.forall₂_map_left_iff, List.forall₂_map_right_iff]
  rwa [List.forall₂_eq_eq_eq] at hsame

/-- The visible fields of a retyped record are retyped. -/
theorem forall₂_visible {fields fields' : List Field}
    (h : List.Forall₂ (Field.Retyped env known keep) fields fields') :
    List.Forall₂ (fun f f' => Field.Retyped env known keep f f' ∧ isVisible f = true)
      (fields.filter isVisible) (fields'.filter isVisible) := by
  induction h with
  | nil => exact .nil
  | @cons f f' fields fields' hf _ ih =>
    rw [List.filter_cons, List.filter_cons, isVisible_congr hf.name]
    split
    · next hvisible => exact .cons ⟨hf, hvisible⟩ ih
    · exact ih

/-- The body of a record depends on the wire names of its fields and on which of them admit null. -/
theorem objectSchema_congr {fields fields' : List Field}
    (h : fields'.map (fun f => (f.wireName, f.type.nullable)) =
      fields.map fun f => (f.wireName, f.type.nullable)) (schemas : List Schema) :
    objectSchema (fields'.zip schemas) = objectSchema (fields.zip schemas) := by
  have hpairs : ∀ fields : List Field, objectSchema (fields.zip schemas) =
      let pairs := (fields.map fun f => (f.wireName, f.type.nullable)).zip schemas
      .object (Table.ofList (pairs.map fun p => (p.1.1, p.2))).entries
        ((pairs.filter (!·.1.2)).map (·.1.1)) := by
    intro fields
    simp only [List.zip_map_left, List.filter_map, List.map_map]
    rfl
  rw [hpairs, hpairs, h]

namespace Environment.Retyped

variable (h : env.Retyped known keep env')

include h

/-- The content of a record is made from types that expose what they did; where nullability is kept,
its body is the same. -/
theorem alike_recordContent (d : Descriptor) :
    Alike (fun c c' => List.Forall₂ (Exposes env known) c.1 c'.1 ∧ (keep → c'.2 = c.2))
      (env.recordContent d) (env'.recordContent d) := by
  refine (h.alike_fields d).map fun fields fields' hall => ?_
  have hvisible := forall₂_visible hall
  constructor
  · rw [List.forall₂_map_left_iff, List.forall₂_map_right_iff]
    exact hvisible.imp fun f f' hf => hf.1.type
  · intro hkeep
    funext schemas
    refine objectSchema_congr (map_eq_of_forall₂ (hvisible.flip.imp fun f' f hf => ?_)) schemas
    rw [hf.1.wireName, hf.1.nullable hkeep hf.2]

/-- One level of a type is the same before and after, over types that expose what they did. -/
theorem layer_rel (d : Descriptor) :
    Layer.Rel (Exposes env known) keep (env.layer known d) (env'.layer known d) := by
  have hlayer := layerOf_layer env known d
  have hkind' := h.kind_eq d
  -- the descriptor itself holds its item; what classes declare plays no part
  have hitem : env'.item d.nonNull = env.item d.nonNull := by
    unfold item
    rw [h.kind_eq]
  have halike : Alike (Exposes env known) (env.item d.nonNull) (env'.item d.nonNull) := by
    rw [hitem]
    exact (Alike.refl _).imp fun item _ heq => heq ▸ .refl item
  generalize env.layer known d = layer at hlayer
  -- the kind is the same on both sides, so the layers are of one sort
  cases hlayer with
  | stream hkind =>
    rw [(LayerOf.stream (hkind'.trans hkind)).layer_eq]
    exact .inline _
  | wrapper hkind =>
    rw [(LayerOf.wrapper (hkind'.trans hkind)).layer_eq]
    exact .ofInner id (h.alike_unwrap d)
  | inline hstream hwrapper hknown =>
    rw [← hkind'] at hstream hwrapper
    rw [(LayerOf.inline hstream hwrapper hknown).layer_eq]
    exact .inline _
  | array hkind hknown =>
    rw [(LayerOf.array (hkind'.trans hkind) hknown).layer_eq]
    exact .ofInner .array halike
  | map hkind hknown =>
    rw [(LayerOf.map (hkind'.trans hkind) hknown).layer_eq]
    exact .ofInner .map halike
  | object hkind hknown =>
    rw [(LayerOf.object (hkind'.trans hkind) hknown).layer_eq]
    exact .named (h.alike_recordContent d)
  | sum hkind hknown =>
    rw [(LayerOf.sum (hkind'.trans hkind) hknown).layer_eq, sumContent, sumContent, h.variants_eq]
    refine .named ((Alike.refl _).map fun variants _ heq => ?_)
    subst heq
    exact ⟨List.forall₂_same.2 fun variant _ => .refl variant, fun _ => rfl⟩
  | refused hkind hknown =>
    rw [← hkind'] at hkind
    rw [(LayerOf.refused hkind hknown).layer_eq]
    exact .refused _

/-- **A type and the one that it exposes are of one level**, once the wrappers are taken off. -/
theorem aligned : Aligned env env' known (Exposes env known) keep := by
  intro d d' hd
  cases hd with
  -- the wrappers have been taken off: from here on the two types are one
  | unwrapped hunwraps =>
    exact ⟨_, _, hunwraps, .refl d', h.kind_eq d', .inl rfl, h.layer_rel d'⟩
  | @array _ item item' c nullable hunwraps hitem hknown =>
    refine ⟨_, _, hunwraps, .refl _, rfl, .inr (.inl rfl), ?_⟩
    rw [layer_nonNull]
    -- arrays and maps may have been given a schema of their own, in either environment alike
    cases hschema : known (.array c item) with
    | some schema =>
      rw [(LayerOf.inline (d := .array c item) nofun nofun hschema).layer_eq,
        (LayerOf.inline (d := (Descriptor.array c item').withNullable nullable) nofun nofun
          (hknown ▸ hschema)).layer_eq]
      exact .inline schema
    | none =>
      rw [(LayerOf.array (d := .array c item) rfl hschema).layer_eq,
        (LayerOf.array (d := (Descriptor.array c item').withNullable nullable) rfl
          (hknown ▸ hschema)).layer_eq]
      exact .around .array hitem
  | @map _ key value value' nullable hunwraps hvalue hknown =>
    refine ⟨_, _, hunwraps, .refl _, rfl, .inr (.inr rfl), ?_⟩
    rw [layer_nonNull]
    -- as for arrays
    cases hschema : known (.map key value) with
    | some schema =>
      rw [(LayerOf.inline (d := .map key value) nofun nofun hschema).layer_eq,
        (LayerOf.inline (d := (Descriptor.map key value').withNullable nullable) nofun nofun
          (hknown ▸ hschema)).layer_eq]
      exact .inline schema
    | none =>
      rw [(LayerOf.map (d := .map key value) rfl hschema).layer_eq,
        (LayerOf.map (d := (Descriptor.map key value').withNullable nullable) rfl
          (hknown ▸ hschema)).layer_eq]
      exact .around .map hvalue

end Environment.Retyped

end ApiShape
