import ApiShape.Converter.Wrapper
import ApiShape.Proofs.Action
import Mathlib.Data.List.Nodup

/-!
# The converter of a type, without the memo

Which converter a type has is a question about the declarations and the registry. The memo of
derived converters and the converters of enumerations that the registry has kept are short cuts.

* **`Unwraps`**, **`Innermost`** — the types that unwrapping leads through, and the one at which it
  ends.
* **`Derives`** — the converter of a type, or the error that it has none, as a relation in which no
  state occurs. It has at most one answer (`Derives.unique`).
* **`Consistent`** — a state whose short cuts lead to where the relation leads.
* **`wp_converterFor`** — from a consistent state, `converterFor` answers what the relation says,
  unless it uses up its budget, and leaves a consistent state.
* **`Derives.exists_depth`** — what the relation says is answered as soon as the budget is large
  enough.
-/

namespace ApiShape

open ApiShape.Action

variable {env : Environment} {d : Descriptor}

/-! ## The converters that a registry knows -/

/-- The converter that the registry has or can make for the type. -/
def Registry.converterOf? (r : Registry) (env : Environment) (d : Descriptor) : Option Converter :=
  match r.entries.get? d.nonNull with
  | some i => some i.converter
  | none => (env.enumeration? d.origin).map fun (ref, e, strict) =>
    e.converter { origin := d.origin } ref strict

/-- A registered converter is found. -/
theorem Registry.resolve_of_entry {r : Registry} {i : Installed}
    (hentry : r.entries.get? d.nonNull = some i) : r.resolve env d = .ok (r, i) := by
  simp only [resolve, hentry]

/-- The converter of an enumeration is installed when it is first looked up. -/
theorem Registry.resolve_of_enumeration {r : Registry} {found : ClassRef × Enumeration × Bool}
    (hentry : r.entries.get? d.nonNull = none) (henum : env.enumeration? d.origin = some found) :
    r.resolve env d =
      .ok (r.install d.nonNull (found.2.1.converter { origin := d.origin } found.1 found.2.2)) := by
  have henum' : env.enumeration? d.nonNull.origin = some found := henum
  simp only [resolve, hentry, henum']
  rfl

/-- Without an entry, nothing but enumerations is handled. -/
theorem Registry.resolve_of_none {r : Registry} (hentry : r.entries.get? d.nonNull = none)
    (henum : env.enumeration? d.origin = none) :
    r.resolve env d = .error (.unhandled d.nonNull none) := by
  have henum' : env.enumeration? d.nonNull.origin = none := henum
  simp only [resolve, hentry, henum']

/-- **The registry resolves a type to the converter that it knows**, and knows the same converters
afterwards: what it keeps is what it would have made again. -/
theorem Registry.resolve_cases (r : Registry) (env : Environment) (d : Descriptor) :
    (∃ r' i, r.resolve env d = .ok (r', i) ∧ r.converterOf? env d = some i.converter ∧
      r'.converterOf? env = r.converterOf? env) ∨
    (r.resolve env d = .error (.unhandled d.nonNull none) ∧ r.converterOf? env d = none) := by
  cases hentry : r.entries.get? d.nonNull with
  | some i => exact .inl ⟨r, i, resolve_of_entry hentry, by rw [converterOf?, hentry], rfl⟩
  | none =>
    cases henum : env.enumeration? d.origin with
    | none => exact .inr ⟨resolve_of_none hentry henum, by rw [converterOf?, hentry, henum]; rfl⟩
    | some found =>
      refine .inl ⟨_, _, resolve_of_enumeration hentry henum,
        by rw [converterOf?, hentry, henum]; rfl, ?_⟩
      funext d'
      -- only the entry of the enumeration itself is new
      simp only [converterOf?, add, Table.get?_set, Descriptor.nonNull_nonNull]
      by_cases hkey : d.nonNull = d'.nonNull
      · have horigin : d'.origin = d.origin := by
          show d'.nonNull.origin = d.nonNull.origin
          rw [hkey]
        rw [if_pos hkey, ← hkey, hentry, horigin, henum]
        rfl
      · rw [if_neg hkey]

/-- A converter that is installed changes what is known of its own type and of no other. -/
theorem Registry.converterOf?_install (r : Registry) (c : Converter) {d' : Descriptor}
    (hne : d.nonNull ≠ d'.nonNull) :
    (r.install d c).1.converterOf? env d' = r.converterOf? env d' := by
  simp only [converterOf?, install, add, Table.get?_set, if_neg hne]

/-- What is installed for a wrapper changes nothing for the types that are none. -/
theorem Registry.converterOf?_install_wrapper (r : Registry) (c : Converter)
    (hkind : env.kind d = .wrapper) {d' : Descriptor} (hkind' : env.kind d' ≠ .wrapper) :
    (r.install d.nonNull c).1.converterOf? env d' = r.converterOf? env d' := by
  refine converterOf?_install r c ?_
  intro heq
  have hsame : env.kind d' = env.kind d := by
    show env.kind d'.nonNull = env.kind d.nonNull.nonNull
    rw [heq]
  exact hkind' (hsame.trans hkind)

/-- What holds of every converter of a type that is installed, if there is one, holds of the
converter that the type is left with. -/
theorem Registry.exists_installed {P : Converter → Prop} {cs : List Converter}
    (hall : ∀ c ∈ cs, c.target.nonNull = d → P c) {r : Registry}
    (h : (∃ c ∈ cs, c.target.nonNull = d) ∨ ∃ i, r.entries.get? d = some i ∧ P i.converter) :
    ∃ i, (cs.foldl (fun r c => (r.install c.target c).1) r).entries.get? d = some i ∧
      P i.converter := by
  induction cs generalizing r with
  | nil => exact h.resolve_left fun ⟨c, hc, _⟩ => List.not_mem_nil hc
  | cons c rest ih =>
    have hrest := fun c' hc' => hall c' (List.mem_cons_of_mem c hc')
    have hget : (r.install c.target c).1.entries.get? d =
        if c.target.nonNull = d then some ⟨c, r.issued⟩ else r.entries.get? d :=
      Table.get?_set r.entries c.target.nonNull d ⟨c, r.issued⟩
    rw [List.foldl_cons]
    by_cases hc : c.target.nonNull = d
    · rw [if_pos hc] at hget
      exact ih hrest (.inr ⟨_, hget, hall c List.mem_cons_self hc⟩)
    · rw [if_neg hc] at hget
      refine ih hrest (h.imp (fun ⟨c', hc', htarget⟩ => ⟨c', ?_, htarget⟩) fun ⟨i, hi, hp⟩ =>
        ⟨i, hget.trans hi, hp⟩)
      rcases List.mem_cons.1 hc' with rfl | hc'
      · exact absurd htarget hc
      · exact hc'

/-- The classes with converters of their own from the start. -/
def leafBuiltins : List Builtin :=
  [.int8, .int16, .int32, .int64, .int, .decimal, .float, .float32, .bool, .str, .uuid, .date,
    .time, .offsetTime, .dateTime, .offsetDateTime, .zonedDateTime, .instant]

/-- The converters of the leaf types are for the leaf types, in order. -/
theorem targets_leafConverters (zones : Time.ZoneDirectory) (lenient : Bool) :
    (leafConverters zones lenient).map Converter.target = leafBuiltins.map Descriptor.ofBuiltin :=
  rfl

/-- Different built-in classes are different types. -/
theorem ofBuiltin_injective : Function.Injective Descriptor.ofBuiltin := by
  intro b b' h
  exact NamedClass.builtin.inj (Origin.named.inj (congrArg Descriptor.origin h))

/-- **A standard registry has each of the converters that every program knows.** No two of them are
for the same type, so none takes the place of another. -/
theorem Registry.exists_standard {zones : Time.ZoneDirectory} {lenient : Bool} {c : Converter}
    (hc : c ∈ leafConverters zones lenient) :
    ∃ i, (Registry.standard zones lenient).entries.get? c.target = some i ∧ i.converter = c := by
  have hnonNull : ∀ c' ∈ leafConverters zones lenient, c'.target.nonNull = c'.target := by
    intro c' hc'
    have htarget := List.mem_map_of_mem (f := Converter.target) hc'
    rw [targets_leafConverters] at htarget
    obtain ⟨b, -, hb⟩ := List.mem_map.1 htarget
    rw [← hb]
    rfl
  have hnodup : ((leafConverters zones lenient).map Converter.target).Nodup := by
    rw [targets_leafConverters]
    exact List.Nodup.map ofBuiltin_injective (by decide)
  refine exists_installed (P := (· = c)) ?_ (.inl ⟨c, hc, hnonNull c hc⟩)
  intro c' hc' hsame
  rw [hnonNull c' hc'] at hsame
  exact List.inj_on_of_nodup_map hnodup hc' hc hsame

/-! ## Unwrapping -/

/-- Unwrapping `d` leads to the second type, in any number of steps. Nullability is left out. -/
inductive Unwraps (env : Environment) : Descriptor → Descriptor → Prop
  | refl (d : Descriptor) : Unwraps env d d.nonNull
  | step {d inner e : Descriptor} (hkind : env.kind d = .wrapper) (h : env.unwrap d = .ok inner)
      (hrest : Unwraps env inner e) : Unwraps env d e

/-- The type at which the wrappers end. -/
def Innermost (env : Environment) (d leaf : Descriptor) : Prop :=
  Unwraps env d leaf ∧ env.kind leaf ≠ .wrapper

/-- What a type unwraps to does not admit null. -/
theorem Unwraps.nonNull_eq {e : Descriptor} (h : Unwraps env d e) : e.nonNull = e := by
  induction h with
  | refl d => exact Descriptor.nonNull_nonNull d
  | step _ _ _ ih => exact ih

/-- Unwrapping goes on at a wrapper. -/
theorem Unwraps.unwrap {w inner : Descriptor} (h : Unwraps env d w) (hkind : env.kind w = .wrapper)
    (hinner : env.unwrap w = .ok inner) : Unwraps env d inner.nonNull := by
  induction h with
  | refl d => exact .step hkind hinner (.refl inner)
  | step hkind' h' _ ih => exact .step hkind' h' (ih hkind hinner)

/-- No wrappers are unwrapped where there are none. -/
theorem Unwraps.kind_ne {e : Descriptor} (h : Unwraps env d e) (hkind : env.kind d ≠ .wrapper) :
    env.kind e ≠ .wrapper := by
  cases h with
  | refl => exact hkind
  | step hwrapper => exact absurd hwrapper hkind

theorem unwraps_nonNull {e : Descriptor} : Unwraps env d.nonNull e ↔ Unwraps env d e := by
  constructor <;> intro h
  · cases h with
    | refl => exact .refl d
    | step hkind h hrest => exact .step hkind h hrest
  · cases h with
    | refl => exact .refl d.nonNull
    | step hkind h hrest => exact .step hkind h hrest

/-- Nullability does not matter for the innermost type. -/
theorem innermost_nonNull {leaf : Descriptor} :
    Innermost env d.nonNull leaf ↔ Innermost env d leaf := and_congr_left fun _ => unwraps_nonNull

/-- Wrappers end at one type. -/
theorem Innermost.unique {leaf other : Descriptor} (h : Innermost env d leaf)
    (h' : Innermost env d other) : leaf = other := by
  obtain ⟨hleaf, hkind⟩ := h
  obtain ⟨hother, hkind'⟩ := h'
  induction hleaf with
  | refl d =>
    cases hother with
    | refl => rfl
    | step hwrapper => exact absurd hwrapper hkind
  | step hwrapper hinner _ ih =>
    cases hother with
    | refl => exact absurd hwrapper hkind'
    | step _ hinner' hrest =>
      obtain rfl := Except.ok.inj (hinner.symm.trans hinner')
      exact ih hkind hrest

/-! ## The relation -/

/-- The converter of a type, or the error that it has none. `known` gives the converters of the
types that are no wrappers; nothing is asked of it for a wrapper. -/
inductive Derives (env : Environment) (known : Descriptor → Option Converter) :
    Descriptor → Except Error Converter → Prop
  | known {d : Descriptor} {c : Converter} (hkind : env.kind d ≠ .wrapper)
      (h : known d.nonNull = some c) :
      Derives env known d (.ok c)
  | unknown {d : Descriptor} (hkind : env.kind d ≠ .wrapper) (h : known d.nonNull = none) :
      Derives env known d (.error (.unhandled d.nonNull none))
  | notUnwrapped {d : Descriptor} {e : Error} (hkind : env.kind d = .wrapper)
      (h : env.unwrap d = .error e) : Derives env known d (.error e)
  | innerFails {d inner : Descriptor} {e : Error} (hkind : env.kind d = .wrapper)
      (h : env.unwrap d = .ok inner) (hinner : Derives env known inner (.error e)) :
      Derives env known d (.error (Environment.innerUnhandled inner e))
  | mapped {d inner : Descriptor} {c : Converter} (hkind : env.kind d = .wrapper)
      (h : env.unwrap d = .ok inner) (hinner : Derives env known inner (.ok c)) :
      Derives env known d (c.map (env.wrap d.nonNull) d.nonNull)

variable {known : Descriptor → Option Converter} {answer : Except Error Converter}

/-- What is derived for a type is determined by what is known. -/
theorem Derives.unique {other : Except Error Converter} (h : Derives env known d answer)
    (h' : Derives env known d other) : answer = other := by
  -- two derivations of one type end in the same rule, since kind and unwrapping are functions
  induction h generalizing other with
  | known hkind h =>
    cases h' with
    | known _ h' => rw [Option.some.inj (h.symm.trans h')]
    | unknown _ h' => cases h.symm.trans h'
    | notUnwrapped hwrapper | innerFails hwrapper | mapped hwrapper => exact absurd hwrapper hkind
  | unknown hkind h =>
    cases h' with
    | known _ h' => cases h.symm.trans h'
    | unknown => rfl
    | notUnwrapped hwrapper | innerFails hwrapper | mapped hwrapper => exact absurd hwrapper hkind
  | notUnwrapped hkind h =>
    cases h' with
    | known hne | unknown hne => exact absurd hkind hne
    | notUnwrapped _ h' =>
      cases h.symm.trans h'
      rfl
    | innerFails _ h' | mapped _ h' => cases h.symm.trans h'
  | innerFails hkind h _ ih =>
    cases h' with
    | known hne | unknown hne => exact absurd hkind hne
    | notUnwrapped _ h' => cases h.symm.trans h'
    | innerFails _ h' hinner =>
      obtain rfl := Except.ok.inj (h.symm.trans h')
      cases ih hinner
      rfl
    | mapped _ h' hinner =>
      obtain rfl := Except.ok.inj (h.symm.trans h')
      cases ih hinner
  | mapped hkind h _ ih =>
    cases h' with
    | known hne | unknown hne => exact absurd hkind hne
    | notUnwrapped _ h' => cases h.symm.trans h'
    | innerFails _ h' hinner =>
      obtain rfl := Except.ok.inj (h.symm.trans h')
      cases ih hinner
    | mapped _ h' hinner =>
      obtain rfl := Except.ok.inj (h.symm.trans h')
      cases ih hinner
      rfl

/-- Nullability plays no part. -/
theorem derives_nonNull : Derives env known d.nonNull answer ↔ Derives env known d answer := by
  constructor <;> intro h
  · cases h with
    | known hkind h => exact .known hkind h
    | unknown hkind h => exact .unknown hkind h
    | notUnwrapped hkind h => exact .notUnwrapped hkind h
    | innerFails hkind h hinner => exact .innerFails hkind h hinner
    | mapped hkind h hinner => exact .mapped hkind h hinner
  · cases h with
    | known hkind h => exact .known hkind h
    | unknown hkind h => exact .unknown hkind h
    | notUnwrapped hkind h => exact .notUnwrapped hkind h
    | innerFails hkind h hinner => exact .innerFails hkind h hinner
    | mapped hkind h hinner => exact .mapped hkind h hinner

/-! ## Errors -/

/-- The error says that nothing handles a type. -/
def Error.IsUnhandled (e : Error) : Prop :=
  ∃ subject detail cause, e = .unhandledType subject detail cause

namespace Environment

/-- A field fails to be described as an unhandled type. -/
theorem isUnhandled_of_describeField {σ : Bindings} {a : TypeExpr} {e : Error}
    (h : describeField σ a = .error e) : e.IsUnhandled := by
  rw [describeField] at h
  cases hdescribe : describeWith σ a with
  | ok d => rw [hdescribe] at h; cases h
  | error name =>
    rw [hdescribe] at h
    cases h
    exact ⟨_, _, _, rfl⟩

/-- Fields that can be listed are those of a record. -/
theorem exists_record_of_fields {fields : List Field} (h : env.fields d = .ok fields) :
    ∃ r, env.record? d.origin = some r := by
  unfold Environment.fields at h
  simp only at h
  split at h
  · cases h
  · split at h
    · cases h
    · next r hrecord => exact ⟨r, hrecord⟩

/-- Fields that cannot be listed are those of a type that nothing handles. -/
theorem isUnhandled_of_fields {e : Error} (h : env.fields d = .error e) : e.IsUnhandled := by
  have hmember : ∀ {make : FieldDecl → Descriptor → Field} {σ : Bindings} {fs : List FieldDecl},
      (fs.mapM fun f => do return make f (← describeField σ f.type)) = .error e →
      e.IsUnhandled := by
    intro make σ fs hfails
    obtain ⟨f, -, hf⟩ := exists_of_mapM_error hfails
    rcases bind_eq_error_iff.1 hf with hfield | ⟨type, -, hpure⟩
    · exact isUnhandled_of_describeField hfield
    · cases hpure
  unfold fields at h
  simp only at h
  split at h
  · cases h
    exact ⟨_, _, _, rfl⟩
  · split at h
    · cases h
      exact ⟨_, _, _, rfl⟩
    · split at h
      · exact hmember h
      · split at h
        · cases h
          exact ⟨_, _, _, rfl⟩
        · exact hmember h

/-- A wrapper that cannot be unwrapped wraps a type that nothing handles, or is no wrapper of one
field. -/
theorem error_of_unwrap {e : Error} (hkind : env.kind d = .wrapper) (h : env.unwrap d = .error e) :
    e.IsUnhandled ∨ e = .fault (.notAWrapper d.nonNull) ∧
      ∃ fields, env.fields d = .ok fields ∧ ∀ only, fields ≠ [only] := by
  have hkind' : env.kind d.nonNull = .wrapper := hkind
  unfold unwrap at h
  simp only [hkind', ne_eq, not_true_eq_false, if_false] at h
  split at h
  · next of _ =>
    cases hdescribe : describe of with
    | ok d => rw [hdescribe] at h; cases h
    | error name =>
      rw [hdescribe] at h
      cases h
      exact .inl ⟨_, _, _, rfl⟩
  · cases hfields : env.fields d with
    | error e' =>
      have hfields' : env.fields d.nonNull = .error e' := hfields
      rw [hfields'] at h
      cases h
      exact .inl (isUnhandled_of_fields hfields)
    | ok fields =>
      have hfields' : env.fields d.nonNull = .ok fields := hfields
      rw [hfields'] at h
      match fields, h with
      | [only], h => cases h
      | [], h => cases h; exact .inr ⟨rfl, _, rfl, fun _ h => by cases h⟩
      | _ :: _ :: _, h => cases h; exact .inr ⟨rfl, _, rfl, fun _ h => by cases h⟩

end Environment

/-- A converter is not put behind a constructor that fails on its default, unless the failure is
that of an unfit text. -/
theorem error_of_map {c : Converter} {build : Value → Except Error Value} {e : Error}
    (h : c.map build d = .error e) :
    ∃ v, c.default = some v ∧ build v = .error e ∧ e.isUnfitText = false := by
  unfold Converter.map at h
  simp only at h
  split at h
  · cases h
  · next v hdefault =>
    split at h
    · cases h
    · next e' hbuild =>
      split at h
      · cases h
      · next hfit =>
        cases h
        exact ⟨v, hdefault, hbuild, by simpa using hfit⟩

/-- What is put behind a constructor keeps all but the target, what it parses and the default, which
is lost unless the constructor accepts it. -/
theorem eq_of_map {c c' : Converter} {build : Value → Except Error Value}
    (h : c.map build d = .ok c') :
    c' = { c with
      target := d
      parse := fun raw => c.parse raw >>= build
      default := c.default.bind fun v => (build v).toOption } := by
  unfold Converter.map at h
  simp only at h
  split at h
  · next hdefault =>
    cases h
    rw [hdefault]
    rfl
  · next u hdefault =>
    rw [hdefault]
    split at h
    · next hbuild =>
      cases h
      rw [Option.bind_some, hbuild]
      rfl
    · next hbuild =>
      split at h
      · cases h
        rw [Option.bind_some, hbuild]
        rfl
      · cases h

theorem toOption_eq_some_iff {ε α : Type} {x : Except ε α} {v : α} :
    x.toOption = some v ↔ x = .ok v := by
  cases x <;> simp [Except.toOption]

/-- A default is that of the converter which the constructor is put behind, accepted by it. -/
theorem ok_of_map {c c' : Converter} {build : Value → Except Error Value}
    (h : c.map build d = .ok c') :
    ∃ default, (∀ v, default = some v → ∃ u, c.default = some u ∧ build u = .ok v) ∧
      c' = { c with target := d, parse := fun raw => c.parse raw >>= build, default } := by
  refine ⟨_, fun v hv => ?_, eq_of_map h⟩
  obtain ⟨u, hdefault, hbuild⟩ := Option.bind_eq_some_iff.1 hv
  exact ⟨u, hdefault, toOption_eq_some_iff.1 hbuild⟩

/-- A class is marked as a wrapper but does not have one field. -/
def Misdeclared (env : Environment) (e : Error) : Prop :=
  ∃ wrapper : Descriptor, env.kind wrapper = .wrapper ∧ e = .fault (.notAWrapper wrapper.nonNull) ∧
    ∀ only, env.fields wrapper ≠ .ok [only]

/-- **Why there is no converter**: nothing handles a type, or a constructor refuses a default. -/
theorem Derives.error_cases {e : Error} (h : Derives env known d (.error e)) :
    e.IsUnhandled ∨
      (∃ wrapper inner c v, env.kind wrapper = .wrapper ∧ env.unwrap wrapper = .ok inner ∧
        Derives env known inner (.ok c) ∧ c.default = some v ∧
        env.wrap wrapper.nonNull v = .error e ∧ e.isUnfitText = false) ∨
      Misdeclared env e := by
  generalize hx : (Except.error e : Except Error Converter) = x at h
  induction h generalizing e with
  | known => cases hx
  | unknown =>
    cases hx
    exact .inl ⟨_, _, _, rfl⟩
  | notUnwrapped hkind h =>
    cases hx
    rcases Environment.error_of_unwrap hkind h with hunhandled | ⟨heq, fields, hfields, hnone⟩
    · exact .inl hunhandled
    · refine .inr (.inr ⟨_, hkind, heq, fun only honly => hnone only ?_⟩)
      exact Except.ok.inj (hfields.symm.trans honly)
  | @innerFails d inner e' hkind h hinner ih =>
    cases hx
    -- an inner error that names a type is raised again with the wrapped type, any other as it is
    unfold Environment.innerUnhandled
    split
    · exact .inl ⟨_, _, _, rfl⟩
    · exact ih rfl
  | @mapped d inner c hkind h hinner ih =>
    obtain ⟨v, hdefault, hbuild, hfit⟩ := error_of_map hx.symm
    exact .inr (.inl ⟨d, inner, c, v, hkind, h, hinner, hdefault, hbuild, hfit⟩)

/-! ## Consistent states -/

/-- The registry knows the converters of the types that are no wrappers, and whatever the memo holds
is what would be derived. -/
structure Consistent (env : Environment) (known : Descriptor → Option Converter) (s : State) :
    Prop where
  registry : ∀ d, env.kind d ≠ .wrapper → s.registry.converterOf? env d = known d
  derived : ∀ d i, s.derived.get? d = some i →
    env.kind d = .wrapper ∧ Derives env known d (.ok i.converter)

/-- A state whose memo is empty is consistent with its own registry. -/
theorem consistent_of_derived_eq_empty (env : Environment) {s : State} (hnew : s.derived = ∅) :
    Consistent env (s.registry.converterOf? env) s where
  registry _ _ := rfl
  derived d i hmemo := by
    rw [hnew, Table.get?_empty] at hmemo
    cases hmemo

variable {s : State}

/-- Consistency is about the registry and the memo alone. -/
theorem Consistent.of_eq {s' : State} (h : Consistent env known s)
    (hregistry : s'.registry = s.registry) (hderived : s'.derived = s.derived) :
    Consistent env known s' where
  registry := hregistry ▸ h.registry
  derived := hderived ▸ h.derived

/-- A state that keeps a derived converter stays consistent. -/
theorem Consistent.keep (h : Consistent env known s) (hkind : env.kind d = .wrapper)
    {c : Converter} (hc : Derives env known d (.ok c)) (journal : Journal) :
    Consistent env known
      { s with
        registry := (s.registry.install d.nonNull c).1
        derived := s.derived.set d.nonNull (s.registry.install d.nonNull c).2
        journal } where
  registry d' hkind' :=
    (Registry.converterOf?_install_wrapper _ _ hkind hkind').trans (h.registry d' hkind')
  derived d' i hmemo := by
    rw [Table.get?_set] at hmemo
    split at hmemo
    · next heq =>
      subst heq
      obtain rfl := Option.some.inj hmemo
      exact ⟨hkind, derives_nonNull.2 hc⟩
    · exact h.derived d' i hmemo

/-- Resolving a type in the registry keeps the state consistent, and gives what is known of a type
that is no wrapper. -/
theorem Consistent.wp_resolve (h : Consistent env known s) (d : Descriptor) :
    wp (Action.resolve env d)
      (fun i s' => Consistent env known s' ∧
        (env.kind d ≠ .wrapper → Derives env known d (.ok i.converter)))
      (fun e s' => s' = s ∧ (env.kind d ≠ .wrapper → Derives env known d (.error e))) s := by
  simp only [Action.resolve, wp_bind, wp_get]
  rcases s.registry.resolve_cases env d with
    ⟨r', i, hresolve, hknows, hsame⟩ | ⟨hresolve, hnone⟩
  · rw [hresolve, wp_ofExcept_ok, wp_modify, wp_pure]
    refine ⟨⟨fun d' hkind' => ?_, h.derived⟩, fun hkind => .known hkind ?_⟩
    · rw [hsame]
      exact h.registry d' hkind'
    · rw [← h.registry d.nonNull hkind]
      exact hknows
  · rw [hresolve, wp_ofExcept_error]
    refine ⟨rfl, fun hkind => .unknown hkind ?_⟩
    rw [← h.registry d.nonNull hkind]
    exact hnone

/-- What the registry knows of a type is what the type resolves to. -/
theorem wp_resolve_of_known {c : Converter} (hknown : s.registry.converterOf? env d = some c) :
    wp (Action.resolve env d) (fun i _ => i.converter = c) (fun _ _ => False) s := by
  simp only [Action.resolve, wp_bind, wp_get]
  rcases s.registry.resolve_cases env d with ⟨r', i, hresolve, hknows, -⟩ | ⟨-, hnone⟩
  · rw [hresolve, wp_ofExcept_ok, wp_modify, wp_pure]
    exact Option.some.inj (hknows.symm.trans hknown)
  · cases hknown.symm.trans hnone

/-- A type that nothing handles is not found. -/
theorem wp_resolve_of_unknown (hnone : s.registry.converterOf? env d = none) :
    wp (Action.resolve env d) (fun _ _ => False) (fun e _ => e = .unhandled d.nonNull none) s := by
  simp only [Action.resolve, wp_bind, wp_get]
  rcases s.registry.resolve_cases env d with ⟨r', i, -, hknows, -⟩ | ⟨hresolve, -⟩
  · cases hnone.symm.trans hknows
  · rw [hresolve, wp_ofExcept_error]

/-! ## One level of a derivation -/

/-- **What asking for a converter does at a type, by the kind of the type and the memo.** -/
theorem wp_converterFor_succ {budget : Nat} {post : Installed → State → Prop}
    {fail : Error → State → Prop}
    -- not a wrapper: the registry answers
    (hleaf : env.kind d ≠ .wrapper → wp (Action.resolve env d.nonNull) post fail s)
    (hmemo : env.kind d = .wrapper → ∀ i, s.derived.get? d.nonNull = some i → post i s)
    (hwrapped : env.kind d = .wrapper → ∀ e, env.unwrap d = .error e → fail e s)
    (hnew : env.kind d = .wrapper → s.derived.get? d.nonNull = none →
      ∀ inner, env.unwrap d = .ok inner →
        wp (env.converterFor budget inner)
          (fun below s' =>
            match below.converter.map (env.wrap d.nonNull) d.nonNull with
            | .error e => fail e s'
            | .ok c => ∀ journal, post (s'.registry.install d.nonNull c).2
                { s' with
                  registry := (s'.registry.install d.nonNull c).1
                  derived := s'.derived.set d.nonNull (s'.registry.install d.nonNull c).2
                  journal })
          (fun e s' => fail (Environment.innerUnhandled inner e) s') s) :
    wp (env.converterFor (budget + 1) d) post fail s := by
  unfold Environment.converterFor
  have hsame : env.kind d.nonNull = env.kind d := rfl
  by_cases hkind : env.kind d = .wrapper
  · -- a wrapper: the memo is asked before the wrapped type
    simp only [hsame, hkind, ne_eq, not_true_eq_false, if_false, wp_bind, wp_get]
    cases hcached : s.derived.get? d.nonNull with
    | some i => exact hmemo hkind i hcached
    | none =>
      simp only [wp_bind]
      have hunwrap : env.unwrap d.nonNull = env.unwrap d := rfl
      rw [hunwrap]
      cases hinner : env.unwrap d with
      | error e => exact hwrapped hkind e hinner
      | ok inner =>
        rw [wp_ofExcept_ok, wp_tryCatch]
        refine wp_mono (hnew hkind hcached inner hinner) ?_ fun _ _ h => h
        intro below s' hbelow
        cases hmap : below.converter.map (env.wrap d.nonNull) d.nonNull with
        | error e =>
          rw [hmap] at hbelow
          exact hbelow
        | ok c =>
          rw [hmap] at hbelow
          -- the report of a default that was dropped comes before the converter is kept
          simp only [wp_ofExcept_ok, Environment.keepDerived]
          split
          · simp only [wp_bind, wp_report, wp_get, wp_modify, wp_count, wp_pure]
            exact hbelow _
          · simp only [wp_bind, wp_report, wp_get, wp_modify, wp_count, wp_pure]
            exact hbelow _
  · simp only [hsame, ne_eq, hkind, not_false_eq_true, if_true]
    exact hleaf hkind

/-! ## Soundness and completeness -/

/-- **From a consistent state, the answer is that of the relation**, unless the budget is used up,
and the state stays consistent. Induction on the budget: a converter taken from the memo is right by
consistency, and one that is kept makes the memo no less so. -/
theorem wp_converterFor (budget : Nat) : ∀ (d : Descriptor) (s : State), Consistent env known s →
    wp (env.converterFor budget d)
      (fun i s' => Consistent env known s' ∧ Derives env known d (.ok i.converter))
      (fun e s' => Consistent env known s' ∧
        (e = .exhausted ∨ Derives env known d (.error e))) s := by
  induction budget with
  | zero => exact fun _ _ h => ⟨h, .inl rfl⟩
  | succ budget ih =>
    intro d s h
    refine wp_converterFor_succ ?_ ?_ ?_ ?_
    · intro hkind
      refine wp_mono (h.wp_resolve d.nonNull) ?_ ?_
      · rintro i s' ⟨h', hderives⟩
        exact ⟨h', derives_nonNull.1 (hderives hkind)⟩
      · rintro e s' ⟨rfl, hderives⟩
        exact ⟨h, .inr (derives_nonNull.1 (hderives hkind))⟩
    · intro _ i hmemo
      exact ⟨h, derives_nonNull.1 (h.derived _ i hmemo).2⟩
    · intro hkind e hunwrap
      exact ⟨h, .inr (.notUnwrapped hkind hunwrap)⟩
    · intro hkind _ inner hunwrap
      refine wp_mono (ih inner s h) ?_ ?_
      · rintro below s' ⟨h', hbelow⟩
        have hmapped := Derives.mapped hkind hunwrap hbelow
        cases hmap : below.converter.map (env.wrap d.nonNull) d.nonNull with
        | error e =>
          rw [hmap] at hmapped
          exact ⟨h', .inr hmapped⟩
        | ok c =>
          rw [hmap] at hmapped
          exact fun journal => ⟨h'.keep hkind hmapped journal, hmapped⟩
      · rintro e s' ⟨h', hfails⟩
        refine ⟨h', ?_⟩
        rcases hfails with rfl | hfails
        · exact .inl rfl
        · exact .inr (.innerFails hkind hunwrap hfails)

/-- Asking for a converter keeps what is remembered consistent. -/
theorem keeps_converterFor (budget : Nat) (d : Descriptor) :
    Keeps (Consistent env known) (env.converterFor budget d) := fun s h =>
  wp_mono (wp_converterFor budget d s h) (fun _ _ h => h.1) fun _ _ h => h.1

/-- One level of an answer: the budget has to be enough for the wrapped type. -/
theorem Derives.wp_succ {budget : Nat} (h : Derives env known d answer)
    (hs : Consistent env known s)
    (hinner : env.kind d = .wrapper → ∀ inner x, env.unwrap d = .ok inner →
      Derives env known inner x →
      wp (env.converterFor budget inner) (fun i _ => x = .ok i.converter)
        (fun e _ => x = .error e) s) :
    wp (env.converterFor (budget + 1) d) (fun i _ => answer = .ok i.converter)
      (fun e _ => answer = .error e) s := by
  refine wp_converterFor_succ ?_ ?_ ?_ ?_
  · intro hkind
    refine wp_mono (hs.wp_resolve d.nonNull) ?_ ?_
    · rintro i s' ⟨-, hderives⟩
      exact h.unique (derives_nonNull.1 (hderives hkind))
    · rintro e s' ⟨-, hderives⟩
      exact h.unique (derives_nonNull.1 (hderives hkind))
  -- the memo holds nothing but answers of the relation
  · intro _ i hmemo
    exact h.unique (derives_nonNull.1 (hs.derived _ i hmemo).2)
  · intro hkind e hunwrap
    exact h.unique (.notUnwrapped hkind hunwrap)
  · intro hkind _ inner hunwrap
    obtain ⟨x, hx⟩ : ∃ x, Derives env known inner x := by
      cases h with
      | known hne | unknown hne => exact absurd hkind hne
      | notUnwrapped _ herror => cases hunwrap.symm.trans herror
      | innerFails _ h' hx | mapped _ h' hx =>
        obtain rfl := Except.ok.inj (hunwrap.symm.trans h')
        exact ⟨_, hx⟩
    refine wp_mono (hinner hkind inner x hunwrap hx) ?_ ?_
    · rintro below s' rfl
      have hmapped := h.unique (.mapped hkind hunwrap hx)
      cases hmap : below.converter.map (env.wrap d.nonNull) d.nonNull with
      | error e => exact hmapped.trans hmap
      | ok c => exact fun _ => hmapped.trans hmap
    · rintro e s' rfl
      exact h.unique (.innerFails hkind hunwrap hx)

/-- **What the relation says is answered from every consistent state**, as soon as the budget is
large enough. Induction on the derivation: each level takes one from the budget, or the memo
answers. -/
theorem Derives.exists_depth (h : Derives env known d answer) :
    ∃ depth, ∀ budget ≥ depth, ∀ s, Consistent env known s →
      wp (env.converterFor budget d) (fun i _ => answer = .ok i.converter)
        (fun e _ => answer = .error e) s := by
  -- one level of the budget is spent on each wrapper
  have hpos : ∀ {budget depth : Nat}, budget ≥ depth + 1 → ∃ n, budget = n + 1 ∧ n ≥ depth := by
    intro budget depth h
    exact ⟨budget - 1, by omega, by omega⟩
  -- the step shared by all rules: what the level below gives carries over
  have hlevel : ∀ {d answer} (depth : Nat), Derives env known d answer →
      (∀ inner x, env.kind d = .wrapper → env.unwrap d = .ok inner → Derives env known inner x →
        ∀ budget ≥ depth, ∀ s, Consistent env known s →
          wp (env.converterFor budget inner) (fun i _ => x = .ok i.converter)
            (fun e _ => x = .error e) s) →
      ∀ budget ≥ depth + 1, ∀ s, Consistent env known s →
        wp (env.converterFor budget d) (fun i _ => answer = .ok i.converter)
          (fun e _ => answer = .error e) s := by
    intro d answer depth h hinner budget hbudget s hs
    obtain ⟨n, rfl, hn⟩ := hpos hbudget
    exact h.wp_succ hs fun hkind inner x hunwrap hx => hinner inner x hkind hunwrap hx n hn s hs
  induction h with
  | known hkind h => exact ⟨1, hlevel 0 (.known hkind h) fun _ _ hw => absurd hw hkind⟩
  | unknown hkind h => exact ⟨1, hlevel 0 (.unknown hkind h) fun _ _ hw => absurd hw hkind⟩
  | notUnwrapped hkind h =>
    refine ⟨1, hlevel 0 (.notUnwrapped hkind h) fun inner x _ hunwrap => ?_⟩
    cases h.symm.trans hunwrap
  | innerFails hkind h hinner ih =>
    obtain ⟨depth, hdepth⟩ := ih
    refine ⟨depth + 1, hlevel depth (.innerFails hkind h hinner) fun inner x _ hunwrap hx => ?_⟩
    obtain rfl := Except.ok.inj (h.symm.trans hunwrap)
    rwa [← hinner.unique hx]
  | mapped hkind h hinner ih =>
    obtain ⟨depth, hdepth⟩ := ih
    refine ⟨depth + 1, hlevel depth (.mapped hkind h hinner) fun inner x _ hunwrap hx => ?_⟩
    obtain rfl := Except.ok.inj (h.symm.trans hunwrap)
    rwa [← hinner.unique hx]

end ApiShape
