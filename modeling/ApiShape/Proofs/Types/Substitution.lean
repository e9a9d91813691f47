import ApiShape.Declaration.Field
import ApiShape.Proofs.Action
import ApiShape.Proofs.Sample
import ApiShape.Proofs.Types.Union

/-!
# Describing and replacing type variables

The fields of a generic class are described under the bindings of its type variables. This is to
describe the declared type expression with the arguments put in for the variables, where unions are
built anew.

* **`describeWith_subst`** — it is so for every type expression in which no variable brings a union,
  null or a duplicate into a union of several members. Describing takes up the nullability of the
  one member that an optional type has besides null, and of no other member.
* **`nullable_describe`** — a described type is nullable exactly if the type expression takes null.
* **`describe_generic_fields`** — both together, and what they say of the fields of a generic class.
* **`optional_argument_disturbs`** — a union of several members loses the null of an argument.
-/

namespace ApiShape

open ApiShape.Action TypeExpr

variable {σ : Bindings} {τ : String → Option TypeExpr} {a : TypeExpr} {as ms : List TypeExpr}

/-! ## Unions -/

/-- Null is left out before members are described. -/
theorem describeMembers_eq (σ : Bindings) (ms : List TypeExpr) :
    describeMembers σ ms = describeAll σ (ms.filter (· ≠ .null)) := by
  induction ms with
  | nil => rfl
  | cons m ms ih =>
    by_cases hm : m = .null
    · rw [hm, describeMembers, ih]
      simp
    · rw [describeMembers, ih]
      · simp [hm, describeAll]
      · exact hm

/-- A union is described by its members other than null, which makes it nullable. -/
theorem describeWith_union (σ : Bindings) (ms : List TypeExpr) :
    describeWith σ (.union ms) =
      (describeAll σ (ms.filter (· ≠ .null))).map (.oneOf (decide (.null ∈ ms))) := by
  rw [describeWith, describeMembers_eq]
  simp only [List.contains_eq_mem]
  cases describeAll σ (ms.filter (· ≠ .null)) <;> rfl

theorem describeAll_singleton (σ : Bindings) (a : TypeExpr) :
    describeAll σ [a] = (describeWith σ a).map ([·]) := by
  rw [describeAll]
  cases describeWith σ a <;> rfl

/-- Nullability that is put on a union afterwards has been there from the start. -/
theorem Descriptor.withNullable_oneOf (nullable : Bool) (ds : List Descriptor) :
    (oneOf nullable ds).withNullable true = oneOf true ds := by
  rcases ds with _ | ⟨d, _ | ⟨_, _⟩⟩
  · rfl
  · simp [oneOf, withNullable]
  · rfl

/-- A type expression is described as a union of its members. -/
theorem describe_members (hne : a ≠ .null) :
    describe a = (describeAll [] (a.members.filter (· ≠ .null))).map
      (.oneOf (decide (.null ∈ a.members))) := by
  cases hunion : a.isUnion with
  | false =>
    have hfilter : [a].filter (· ≠ .null) = [a] := by simp [hne]
    have hnotMem : decide (.null ∈ [a]) = false := by simp [Ne.symm hne]
    rw [members_of_isUnion hunion, hfilter, hnotMem, describeAll_singleton, describe]
    cases describeWith [] a with
    | error name => rfl
    | ok d =>
      show Except.ok d = .ok (d.withNullable (d.nullable || false))
      cases d
      simp [Descriptor.withNullable]
  | true =>
    cases a with
    | union ms => exact describeWith_union [] ms
    | _ => cases hunion

/-- Null in a union makes what the other members are described as nullable. -/
theorem describe_union_of_members (hmembers : ms.filter (· ≠ .null) = a.members.filter (· ≠ .null))
    (hnull : TypeExpr.null ∈ ms) (hne : a ≠ .null) :
    describe (.union ms) = (describe a).map (·.withNullable true) := by
  rw [describe, describeWith_union, hmembers, decide_eq_true hnull, describe_members hne]
  cases describeAll [] (a.members.filter (· ≠ .null)) with
  | error name => rfl
  | ok ds => simp [Except.map, Descriptor.withNullable_oneOf]

/-- **An optional type is the type, and admits null**, whichever of the two comes first. -/
theorem describe_optional (h : a.Canonical) :
    describe (unionOf [a, .null]) = (describe a).map (·.withNullable true) ∧
      describe (unionOf [.null, a]) = (describe a).map (·.withNullable true) := by
  by_cases hne : a = .null
  · have hnull : unionOf [.null, .null] = .null := by simp [unionOf, distinct, members, alike]
    rw [hne, hnull]
    exact ⟨rfl, rfl⟩
  · rw [unionOf_null_right h hne, unionOf_null_left h hne]
    refine ⟨describe_union_of_members ?_ ?_ hne, describe_union_of_members ?_ ?_ hne⟩
    · split <;> simp
    · split
      · next hmem => exact hmem
      · simp
    · simp [List.filter_filter]
    · simp

/-! ## Replacing type variables -/

/-- The members are one type expression and null. -/
def IsOptional (ms : List TypeExpr) : Prop := ∃ a, ms = [a, .null] ∨ ms = [.null, a]

mutual

/-- No union of several members gets a union, null or a duplicate from a variable in it, and no
class that is specialised before use has a variable that is replaced. -/
def TypeExpr.Undisturbed (τ : String → Option TypeExpr) : TypeExpr → Prop
  | .union ms => AllUndisturbed τ ms ∧ (IsOptional ms ∨
      (∀ m ∈ ms, m ≠ .null → (m.subst τ).isUnion = false ∧ m.subst τ ≠ .null) ∧
      (substAll τ ms).Pairwise (alike · · = false))
  | .specialised _ as => substAll τ as = as
  | .sequence _ a | .annotated a _ => a.Undisturbed τ
  | .tuple as | .applied _ as => AllUndisturbed τ as
  | .mapping _ k v => k.Undisturbed τ ∧ v.Undisturbed τ
  | _ => True

def TypeExpr.AllUndisturbed (τ : String → Option TypeExpr) : List TypeExpr → Prop
  | [] => True
  | a :: as => a.Undisturbed τ ∧ AllUndisturbed τ as

end

theorem allUndisturbed_iff : AllUndisturbed τ as ↔ ∀ a ∈ as, a.Undisturbed τ := by
  induction as with
  | nil => simp [AllUndisturbed]
  | cons a as ih => rw [AllUndisturbed, ih, List.forall_mem_cons]

/-- A variable is bound to the type that its replacement describes; without either it stands for any
type. -/
def StandFor (τ : String → Option TypeExpr) (σ : Bindings) : Prop :=
  ∀ n, describe ((τ n).getD (.typeVar n)) = .ok (σ.get n)

/-- Describing and replacing commute on a list if they do on its members. -/
theorem describeAll_subst (h : ∀ m ∈ as, describeWith σ m = describe (m.subst τ)) :
    describeAll σ as = describeAll [] (substAll τ as) := by
  induction as with
  | nil => rfl
  | cons a as ih =>
    rw [List.forall_mem_cons] at h
    rw [describeAll, substAll, describeAll, h.1, ih h.2, describe]

theorem subst_null : subst τ .null = .null := by simp [subst]

/-- Replacing variables puts null in the place of no other member. -/
theorem filter_substAll (h : ∀ m ∈ ms, m ≠ .null → m.subst τ ≠ .null) :
    (substAll τ ms).filter (· ≠ .null) = substAll τ (ms.filter (· ≠ .null)) := by
  induction ms with
  | nil => rfl
  | cons m ms ih =>
    rw [List.forall_mem_cons] at h
    rw [substAll]
    by_cases hm : m = .null
    · rw [hm, subst_null, List.filter_cons_of_neg (by simp), List.filter_cons_of_neg (by simp),
        ih h.2]
    · rw [List.filter_cons_of_pos (by simpa using h.1 hm),
        List.filter_cons_of_pos (by simpa using hm), ih h.2, substAll]

/-- Replacing variables puts null nowhere and takes it from nowhere. -/
theorem null_mem_substAll (h : ∀ m ∈ ms, m ≠ .null → m.subst τ ≠ .null) :
    TypeExpr.null ∈ substAll τ ms ↔ TypeExpr.null ∈ ms := by
  induction ms with
  | nil => rfl
  | cons m ms ih =>
    rw [List.forall_mem_cons] at h
    rw [substAll, List.mem_cons, List.mem_cons, ih h.2]
    refine or_congr_left ⟨fun hsubst => ?_, fun hm => by rw [← hm, subst_null]⟩
    by_contra hm
    exact h.1 (Ne.symm hm) hsubst.symm

/-- A union of several members, into which variables bring no unions, nulls or duplicates. -/
theorem describeWith_union_subst (hlength : 2 ≤ ms.length)
    (hmembers : ∀ m ∈ ms, describeWith σ m = describe (m.subst τ))
    (hflat : ∀ m ∈ ms, m ≠ .null → (m.subst τ).isUnion = false ∧ m.subst τ ≠ .null)
    (hpairwise : (substAll τ ms).Pairwise (alike · · = false)) :
    describeWith σ (.union ms) = describe (unionOf (substAll τ ms)) := by
  have hne : ∀ m ∈ ms, m ≠ .null → m.subst τ ≠ .null := fun m hm h => (hflat m hm h).2
  have hflat' : ∀ b ∈ substAll τ ms, b.isUnion = false := by
    intro b hb
    obtain ⟨m, hm, rfl⟩ := mem_substAll hb
    by_cases hnull : m = .null
    · rw [hnull, subst_null]
      rfl
    · exact (hflat m hm hnull).1
  rw [unionOf_of_flat (by rwa [length_substAll]) hflat' hpairwise, describe, describeWith_union,
    describeWith_union, filter_substAll hne,
    describeAll_subst fun m hm => hmembers m (List.mem_filter.1 hm).1]
  simp only [null_mem_substAll hne]

/-- An optional type, whatever a variable brings into it. -/
theorem describeWith_optional_subst (hoptional : IsOptional ms)
    (hdistinct : ms.Pairwise (alike · · = false))
    (hmembers : ∀ m ∈ ms, describeWith σ m = describe (m.subst τ) ∧ (m.subst τ).Canonical) :
    describeWith σ (.union ms) = describe (unionOf (substAll τ ms)) := by
  -- the other side is described alone, and made nullable
  have hside : ∀ a ≠ .null, ms.filter (· ≠ .null) = [a] → TypeExpr.null ∈ ms →
      describeWith σ (.union ms) = (describeWith σ a).map (·.withNullable true) := by
    intro a hne hfilter hnull
    rw [describeWith_union, hfilter, decide_eq_true hnull, describeAll_singleton]
    cases describeWith σ a with
    | error name => rfl
    | ok d =>
      show Except.ok (d.withNullable (d.nullable || true)) = _
      rw [Bool.or_true]
      rfl
  -- `T | None` and `None | T` are normalised to unions of different order
  obtain ⟨a, rfl | rfl⟩ := hoptional
  · obtain ⟨hdescribe, hcanonical⟩ := hmembers a (by simp)
    have hne : a ≠ .null := by
      rintro rfl
      simp [null_alike] at hdistinct
    rw [hside a hne (by simp [hne]) (by simp), substAll, substAll, substAll, subst_null,
      (describe_optional hcanonical).1, hdescribe]
  · obtain ⟨hdescribe, hcanonical⟩ := hmembers a (by simp)
    have hne : a ≠ .null := by
      rintro rfl
      simp [null_alike] at hdistinct
    rw [hside a hne (by simp [hne]) (by simp), substAll, substAll, substAll, subst_null,
      (describe_optional hcanonical).2, hdescribe]

/-- Notes are not described. -/
theorem describe_withNotes (a : TypeExpr) (ns : List Note) :
    describe (a.withNotes ns) = describe a := by
  cases a <;> rfl

/-- **To describe under bindings is to describe with the variables replaced.** Recursion on the type
expression; only unions are built anew. -/
theorem describeWith_subst (hτ : ∀ n b, τ n = some b → b.Canonical) (hσ : StandFor τ σ) :
    ∀ a : TypeExpr, a.Canonical → a.Undisturbed τ → describeWith σ a = describe (a.subst τ)
  | .typeVar n, _, _ => by
    rw [subst, describeWith]
    exact (hσ n).symm
  | .union ms, h, hu => by
    -- members may merge once variables are replaced, so unions need to be undisturbed
    have hmembers : ∀ m ∈ ms, describeWith σ m = describe (m.subst τ) := fun m hm =>
      describeWith_subst hτ hσ m (allCanonical_iff.1 h.2.2.2 m hm) (allUndisturbed_iff.1 hu.1 m hm)
    rw [subst]
    -- either `T | None`, or members that are flat and stay distinct
    rcases hu.2 with hoptional | ⟨hflat, hpairwise⟩
    · exact describeWith_optional_subst hoptional h.2.2.1 fun m hm =>
        ⟨hmembers m hm, canonical_subst hτ m (allCanonical_iff.1 h.2.2.2 m hm)⟩
    · exact describeWith_union_subst h.1 hmembers hflat hpairwise
  | .sequence f a, h, hu => by
    rw [subst, describeWith, describeWith_subst hτ hσ a h hu, describe, describe, describeWith]
  | .tuple [], _, _ => rfl
  | .tuple (a :: as), h, hu => by
    have hfirst := describeWith_subst hτ hσ a h.1 hu.1
    have hrest : ∀ m ∈ as, describeWith σ m = describe (m.subst τ) := fun m hm =>
      describeWith_subst hτ hσ m (allCanonical_iff.1 h.2 m hm) (allUndisturbed_iff.1 hu.2 m hm)
    rw [subst, substAll, describeWith, hfirst, describeAll_subst hrest, describe, describe,
      describeWith]
  | .mapping f k v, h, hu => by
    rw [subst, describeWith, describeWith_subst hτ hσ k h.1 hu.1,
      describeWith_subst hτ hσ v h.2 hu.2, describe, describe, describe, describeWith]
  | .applied c as, h, hu => by
    have hargs : ∀ m ∈ as, describeWith σ m = describe (m.subst τ) := fun m hm =>
      describeWith_subst hτ hσ m (allCanonical_iff.1 h m hm) (allUndisturbed_iff.1 hu m hm)
    rw [subst, describeWith, describeAll_subst hargs, describe, describeWith]
  | .specialised c as, _, hu => by
    have hargs : substAll τ as = as := hu
    rw [subst, hargs]
    rfl
  | .annotated a ns, h, hu => by
    rw [subst, describe_withNotes, describeWith, describeWith_subst hτ hσ a h hu]
  | .null, _, _ | .any, _, _ | .named _, _, _ | .bare _, _, _ | .forward .., _, _
  | .literal _, _, _ | .unexamined _, _, _ => by
    simp [subst, describe, describeWith]

/-! ## Nullability -/

mutual

/-- Null is a value: the type expression is null, or a union with such a member. -/
def TypeExpr.takesNull : TypeExpr → Bool
  | .null => true
  | .union ms => someTakesNull ms
  | .annotated a _ => a.takesNull
  | _ => false

def TypeExpr.someTakesNull : List TypeExpr → Bool
  | [] => false
  | a :: as => a.takesNull || someTakesNull as

end

/-- A union that takes null has null as a member, and not only within one that has notes. -/
def TypeExpr.ShowsNull : TypeExpr → Prop
  | .union ms => .null ∈ ms ∨ someTakesNull ms = false
  | .annotated a _ => a.ShowsNull
  | _ => True

theorem someTakesNull_of_mem (h : TypeExpr.null ∈ ms) : someTakesNull ms = true := by
  induction ms with
  | nil => cases h
  | cons m ms ih =>
    rw [someTakesNull, Bool.or_eq_true]
    rcases List.mem_cons.1 h with rfl | h
    · exact .inl (by rw [takesNull])
    · exact .inr (ih h)

/-- Every type of a list is described. -/
theorem length_describeAll {ds : List Descriptor} (h : describeAll σ as = .ok ds) :
    ds.length = as.length := by
  induction as generalizing ds with
  | nil =>
    cases h
    rfl
  | cons a as ih =>
    obtain ⟨d, -, htail⟩ := bind_eq_ok_iff.1 h
    obtain ⟨more, hrest, hpure⟩ := bind_eq_ok_iff.1 htail
    cases hpure
    rw [List.length_cons, ih hrest, List.length_cons]

theorem nullable_oneOf_true (ds : List Descriptor) :
    (Descriptor.oneOf true ds).nullable = true := by
  rcases ds with _ | ⟨d, _ | ⟨_, _⟩⟩ <;> simp [Descriptor.oneOf, Descriptor.withNullable]

/-- Several alternatives are nullable only as a whole. -/
theorem nullable_oneOf_false {ds : List Descriptor} (h : 2 ≤ ds.length) :
    (Descriptor.oneOf false ds).nullable = false := by
  rcases ds with _ | ⟨d, _ | ⟨_, _⟩⟩
  · cases h
  · simp at h
  · rfl

/-- **A described type is nullable exactly if the type expression takes null.** -/
theorem nullable_describe {d : Descriptor} : ∀ {a : TypeExpr}, a.Canonical → a.ShowsNull →
    describe a = .ok d → d.nullable = a.takesNull
  | .union ms, h, hshows, hd => by
    rw [describe, describeWith_union] at hd
    obtain ⟨ds, hall, rfl⟩ := map_eq_ok_iff.1 hd
    rw [takesNull]
    by_cases hnull : TypeExpr.null ∈ ms
    · rw [decide_eq_true hnull, nullable_oneOf_true, someTakesNull_of_mem hnull]
    · -- no member is left out, so that there are several
      have hfilter : ms.filter (· ≠ .null) = ms := by
        rw [List.filter_eq_self]
        intro m hm
        simpa using ne_of_mem_of_not_mem hm hnull
      have hlength := length_describeAll hall
      rw [hfilter] at hlength
      rw [decide_eq_false hnull, nullable_oneOf_false (by rw [hlength]; exact h.1),
        hshows.resolve_left hnull]
  | .annotated a _, h, hshows, hd => by
    rw [takesNull]
    exact nullable_describe (a := a) h hshows hd
  | .null, _, _, hd | .any, _, _, hd | .named _, _, _, hd | .typeVar _, _, _, hd
  | .specialised .., _, _, hd | .literal _, _, _, hd | .unexamined _, _, _, hd
  | .tuple [], _, _, hd => by
    cases hd
    rfl
  | .bare b, _, _, hd => by
    cases hd
    cases b <;> rfl
  | .forward .., _, _, hd => by cases hd
  | .sequence f a, _, _, hd => by
    obtain ⟨item, -, hpure⟩ := bind_eq_ok_iff.1 hd
    cases hpure
    rfl
  | .tuple (a :: as), _, _, hd => by
    obtain ⟨first, -, htail⟩ := bind_eq_ok_iff.1 hd
    obtain ⟨rest, -, hpure⟩ := bind_eq_ok_iff.1 htail
    cases hpure
    rfl
  | .mapping f k v, _, _, hd => by
    obtain ⟨key, -, htail⟩ := bind_eq_ok_iff.1 hd
    obtain ⟨value, -, hpure⟩ := bind_eq_ok_iff.1 htail
    cases hpure
    rfl
  | .applied c as, _, _, hd => by
    obtain ⟨args, -, hpure⟩ := bind_eq_ok_iff.1 hd
    cases hpure
    rfl

/-! ## Generic classes -/

/-- What is put in for type variables, in their order. -/
def putIn (params : List String) (args : List TypeExpr) (n : String) : Option TypeExpr :=
  (params.zip args).lookup n

/-- The argument that stands for a variable is in the form in which types are declared. -/
theorem canonical_of_putIn {params : List String} (hargs : ∀ b ∈ as, b.Canonical) {n : String}
    {b : TypeExpr} (h : putIn params as n = some b) : b.Canonical := by
  obtain ⟨before, after, heq, -⟩ := List.lookup_eq_some_iff.1 h
  have hmem : (n, b) ∈ params.zip as := by
    rw [heq]
    simp
  exact hargs b (List.of_mem_zip hmem).2

/-- Variables that are bound to what the arguments describe. -/
theorem standFor_putIn {ds : List Descriptor} (h : describeAll [] as = .ok ds)
    (params : List String) : StandFor (putIn params as) (params.zip ds) := by
  intro n
  induction params generalizing as ds with
  | nil => rfl
  | cons m params ih =>
    cases as with
    | nil =>
      cases h
      rfl
    | cons a as =>
      obtain ⟨d, hfirst, htail⟩ := bind_eq_ok_iff.1 h
      obtain ⟨more, hrest, hpure⟩ := bind_eq_ok_iff.1 htail
      cases hpure
      rw [putIn, Bindings.get, List.zip_cons_cons, List.zip_cons_cons, List.lookup_cons,
        List.lookup_cons]
      -- the first parameter of a name takes the argument, in both
      cases n == m with
      | true => exact hfirst
      | false => exact ih hrest

/-- The type is what the type expression describes with its variables replaced, and is nullable
exactly if that takes null. -/
def Substituted (τ : String → Option TypeExpr) (a : TypeExpr) (d : Descriptor) : Prop :=
  describe (a.subst τ) = .ok d ∧
    ((a.subst τ).ShowsNull → d.nullable = (a.subst τ).takesNull)

/-- What a type with its variables replaced is described as. -/
theorem substituted_of_describe {d : Descriptor} (hτ : ∀ n b, τ n = some b → b.Canonical)
    (h : a.Canonical) (hd : describe (a.subst τ) = .ok d) : Substituted τ a d :=
  ⟨hd, fun hshows => nullable_describe (canonical_subst hτ a h) hshows hd⟩

namespace Environment

/-- A field is described by the bindings of its class. -/
theorem describeWith_of_describeField {d : Descriptor} (h : describeField σ a = .ok d) :
    describeWith σ a = .ok d := by
  rw [describeField] at h
  cases hdescribe : describeWith σ a with
  | error name =>
    rw [hdescribe] at h
    cases h
  | ok found =>
    rw [hdescribe] at h
    cases h
    rfl

/-- Every field comes from a declared one, whose type it has under the bindings. -/
theorem exists_decl_of_mapM {key : FieldDecl → String} {decls : List FieldDecl}
    {fields : List Field}
    (h : (decls.mapM fun decl => do
      return decl.toField (key decl) (← describeField σ decl.type)) = .ok fields) :
    ∀ f ∈ fields, ∃ decl ∈ decls, f.name = decl.name ∧ describeWith σ decl.type = .ok f.type := by
  intro f hf
  obtain ⟨decl, hdecl, hfield⟩ := exists_of_mapM_ok h f hf
  obtain ⟨type, htype, hpure⟩ := bind_eq_ok_iff.1 hfield
  cases hpure
  refine ⟨decl, hdecl, decl.toField_name _ _, ?_⟩
  rw [FieldDecl.toField_type]
  exact describeWith_of_describeField htype

/-- A field has the type that its declaration describes under the bindings of the class. -/
theorem exists_decl_of_fields {env : Environment} {d : Descriptor} {r : RecordDef}
    {fields : List Field} (hrecord : env.record? d.origin = some r)
    (h : env.fields d = .ok fields) :
    ∀ f ∈ fields, ∃ decl ∈ r.fields, f.name = decl.name ∧
      describeWith (env.bindings d) decl.type = .ok f.type := by
  unfold Environment.fields at h
  simp only at h
  split at h
  · cases h
  · rw [show d.nonNull.origin = d.origin from rfl, hrecord] at h
    simp only at h
    split at h
    · exact exists_decl_of_mapM h
    · split at h
      · cases h
      · -- the fields of other records are those that can be set
        intro f hf
        obtain ⟨decl, hdecl, hfield⟩ := exists_decl_of_mapM h f hf
        exact ⟨decl, (List.mem_filter.1 hdecl).1, hfield⟩

end Environment

/-- **Describing and replacing commute.** With the types of the arguments bound to the type
variables, a type expression is described as with the arguments put in, provided that no variable
brings a union, null or a duplicate into a union of several members, or stands in a class that is
specialised before use. So is every field of a generic class; it is nullable exactly if its type
expression with the arguments put in takes null. The fields of a specialised class need no such
condition. -/
theorem describe_generic_fields (params : List String) (args : List TypeExpr)
    (ds : List Descriptor) (hcanonical : ∀ b ∈ args, b.Canonical)
    (hdescribed : describeAll [] args = .ok ds) :
    (∀ a : TypeExpr, a.Canonical → a.Undisturbed (putIn params args) →
      describeWith (params.zip ds) a = describe (a.subst (putIn params args))) ∧
    ∀ (env : Environment) (c : ClassRef) (declaration : Declaration) (r : RecordDef)
      (fields : List Field), env.find? c = some declaration → declaration.params = params →
      declaration.record? = some r →
      (∀ d, describe (.applied (.declared c) args) = .ok d → env.fields d = .ok fields →
        ∀ f ∈ fields, ∃ decl ∈ r.fields, f.name = decl.name ∧
          (decl.type.Canonical → decl.type.Undisturbed (putIn params args) →
            Substituted (putIn params args) decl.type f.type)) ∧
      ∀ d, describe (.specialised c args) = .ok d → env.fields d = .ok fields →
        ∀ f ∈ fields, ∃ decl ∈ r.fields, f.name = decl.name ∧
          (decl.type.Canonical → Substituted (putIn params args) decl.type f.type) := by
  have hτ : ∀ n b, putIn params args n = some b → b.Canonical := fun _ _ =>
    canonical_of_putIn hcanonical
  have hcommutes := fun a => describeWith_subst hτ (standFor_putIn hdescribed params) a
  refine ⟨hcommutes, fun env c declaration r fields hfind hparams hrecord => ⟨?_, ?_⟩⟩
  · intro d hd hfields f hf
    obtain ⟨found, hfound, hpure⟩ := bind_eq_ok_iff.1 hd
    cases hdescribed.symm.trans hfound
    cases hpure
    have hrecord' : env.record? (.named (.declared c)) = some r := by
      rw [Environment.record?, hfind]
      exact hrecord
    have hbindings : env.bindings { origin := .named (.declared c), args := ds } =
        params.zip ds := by
      simp [Environment.bindings, hfind, hparams]
    obtain ⟨decl, hdecl, hname, htype⟩ := Environment.exists_decl_of_fields hrecord' hfields f hf
    refine ⟨decl, hdecl, hname, fun hwell hundisturbed => ?_⟩
    rw [hbindings, hcommutes decl.type hwell hundisturbed] at htype
    exact substituted_of_describe hτ hwell htype
  · intro d hd hfields f hf
    cases hd
    -- the arguments have been put in before the fields are described
    have hrecord' : env.record? (.specialised c args) = some { r with
        fields := r.fields.map fun f => { f with type := f.type.subst (putIn params args) } } := by
      simp [Environment.record?, hfind, hrecord, hparams,
        show putIn params args = fun n => (params.zip args).lookup n from rfl]
    obtain ⟨decl, hdecl, hname, htype⟩ := Environment.exists_decl_of_fields hrecord' hfields f hf
    obtain ⟨written, hwritten, rfl⟩ := List.mem_map.1 hdecl
    exact ⟨written, hwritten, hname, fun hwell => substituted_of_describe hτ hwell htype⟩

/-! ## Boxes and pages -/

open ApiShape.Sample

namespace TypeExpr.Sample

/-- Pages hold items, and may tell where they go on. -/
def page : Declaration := generic ["T"] (dataclass "Page"
  [{ name := "items", type := .sequence .list (.typeVar "T") },
    { name := "next", type := .union [.typeVar "T", .null] }])

/-- Boxes hold a value or a number. -/
def box : Declaration := generic ["T"] (dataclass "Box"
  [{ name := "value", type := .union [.typeVar "T", number] }])

def shelves : Environment where
  declarations := [page, box]

/-- Text, if any. -/
def optionalText : TypeExpr := .union [text, .null]

/-- The class with optional text for `T`. -/
def ofOptionalText (c : Declaration) : Descriptor :=
  { origin := .named (.declared c.ref), args := [(Descriptor.ofBuiltin .str).withNullable true] }

end TypeExpr.Sample

open TypeExpr.Sample

/-- The fields of a page of optional texts: the items are no more nullable than a list, what comes
next is an optional type within an optional type. -/
theorem describe_generic_fields_page : ∃ fields, shelves.fields (ofOptionalText page) = .ok fields ∧
    fields.map (·.type.nullable) = [false, true] ∧
    ∀ f ∈ fields, ∃ a, Substituted (putIn ["T"] [optionalText]) a f.type := by
  have htext : ∀ b ∈ [optionalText], b.Canonical := by
    simp [optionalText, text, Canonical, AllCanonical, isUnion, alike]
  obtain ⟨-, hfields⟩ := describe_generic_fields ["T"] [optionalText] _ htext rfl
  obtain ⟨hpage, -⟩ := hfields shelves page.ref page _ _ rfl rfl rfl
  refine ⟨_, rfl, rfl, fun f hf => ?_⟩
  obtain ⟨decl, hdecl, -, hsubstituted⟩ := hpage (ofOptionalText page) rfl rfl f hf
  refine ⟨decl.type, hsubstituted ?_ ?_⟩
  · rcases List.mem_cons.1 hdecl with rfl | hdecl
    · trivial
    · rw [List.mem_singleton.1 hdecl]
      simp [Canonical, AllCanonical, isUnion, alike]
  · rcases List.mem_cons.1 hdecl with rfl | hdecl
    · trivial
    · rw [List.mem_singleton.1 hdecl]
      exact ⟨⟨trivial, trivial, trivial⟩, .inl ⟨_, .inl rfl⟩⟩

/-- **A union of several members loses the null of an argument.** With optional text put in, the
value of a box takes text, a number or null. It is described as a union of optional text and numbers
that does not admit null. -/
theorem optional_argument_disturbs :
    let written : TypeExpr := .union [.typeVar "T", .named (.builtin .int)]
    let put := written.subst (putIn ["T"] [optionalText])
    put = .union [.named (.builtin .str), .null, .named (.builtin .int)] ∧ put.takesNull = true ∧
    (∃ value, shelves.fields (ofOptionalText box) = .ok [value] ∧ value.type.nullable = false ∧
      describe put ≠ .ok value.type) ∧
    ¬∀ ds, describeAll [] [optionalText] = .ok ds →
      describeWith (["T"].zip ds) written = describe put := by
  intro written put
  have hput : put = .union [.named (.builtin .str), .null, .named (.builtin .int)] := by
    simp [put, written, subst, substAll, putIn, optionalText, text, unionOf, members, distinct,
      alike]
  have hdescribed : describe put = .ok (.oneOf true [.ofBuiltin .str, .ofBuiltin .int]) := by
    rw [hput]
    rfl
  refine ⟨hput, by rw [hput]; rfl, ⟨_, rfl, rfl, ?_⟩, fun hclaim => ?_⟩
  · rw [hdescribed]
    intro heq
    cases Except.ok.inj heq
  · have heq := hclaim _ rfl
    rw [hdescribed] at heq
    cases heq

end ApiShape
