import ApiShape.Converter.Registry
import ApiShape.Proofs.Converter.Derivation

/-!
# What converters refuse

A converter is made of a parser and the constructors of wrappers, and what it raises one of them has
raised. `Converter.Yields` says which values a converter gives and which errors it raises.

* **`Derives.yields`** — a derived converter gives and raises what the parser and the constructors
  on the way to it do (`Gives`, `Refuses`).
* **`Registry.yields_standard`** — the converters that every program knows, and those of
  enumerations, raise nothing but that a text is unfit, and their values can be hashed; so only
  constructors may raise anything else (`Registry.refuses_standard`).
* `Converter.error_of_convert`, `Converter.value_of_convert` — what comes of a text.
-/

namespace ApiShape

open ApiShape.Action

variable {env : Environment} {d : Descriptor} {good : Value → Prop} {allowed : Error → Prop}

/-! ## What converters parse and raise -/

/-- What the converter parses and falls back to is good, and what it raises is allowed. -/
structure Converter.Yields (c : Converter) (good : Value → Prop) (allowed : Error → Prop) :
    Prop where
  parsed : ∀ {raw v}, c.parse raw = .ok v → good v
  raised : ∀ {raw e}, c.parse raw = .error e → allowed e
  default : ∀ {v}, c.default = some v → good v

/-- A weaker property of values is yielded, too. -/
theorem Converter.Yields.mono {c : Converter} {better : Value → Prop} (h : c.Yields good allowed)
    (hgood : ∀ v, good v → better v) : c.Yields better allowed where
  parsed hparse := hgood _ (h.parsed hparse)
  raised := h.raised
  default hdefault := hgood _ (h.default hdefault)

/-- A converter that builds values yields what the built values are. Building may fail, as long as
its errors are allowed. -/
theorem Converter.Yields.map {c c' : Converter} {build : Value → Except Error Value}
    {made : Value → Prop} (h : c.Yields good allowed)
    (hmade : ∀ v u, good v → build v = .ok u → made u)
    (hrefused : ∀ v e, good v → build v = .error e → allowed e) (hmap : c.map build d = .ok c') :
    c'.Yields made allowed := by
  obtain ⟨default, hdefault, rfl⟩ := ok_of_map hmap
  refine ⟨fun {raw u} hparse => ?_, fun {raw e} hparse => ?_, fun {u} hu => ?_⟩
  · obtain ⟨v, hraw, hbuild⟩ := bind_eq_ok_iff.1 hparse
    exact hmade v u (h.parsed hraw) hbuild
  · rcases bind_eq_error_iff.1 hparse with hraw | ⟨v, hraw, hbuild⟩
    · exact h.raised hraw
    · exact hrefused v e (h.parsed hraw) hbuild
  · obtain ⟨v, hv, hbuild⟩ := hdefault u hu
    exact hmade v u (h.default hv) hbuild

/-- What may be raised while a text is converted: that the text is unfit, or an error of the
client. -/
def Error.IsRefusal (e : Error) : Prop := e.isUnfitText = true ∨ e.isClient = true

/-- The values that texts of a type come to: what the parser gives or falls back to, and what the
constructor of a wrapper makes from a value of the type that it wraps. -/
inductive Gives (env : Environment) (known : Descriptor → Option Converter) :
    Descriptor → Value → Prop
  | parsed {d : Descriptor} {c : Converter} {raw : String} {v : Value}
      (hkind : env.kind d ≠ .wrapper) (h : known d.nonNull = some c)
      (hparse : c.parse raw = .ok v) : Gives env known d v
  | default {d : Descriptor} {c : Converter} {v : Value} (hkind : env.kind d ≠ .wrapper)
      (h : known d.nonNull = some c) (hdefault : c.default = some v) : Gives env known d v
  | made {d inner : Descriptor} {v u : Value} (hkind : env.kind d = .wrapper)
      (h : env.unwrap d = .ok inner) (hinner : Gives env known inner v)
      (hwrap : env.wrap d.nonNull v = .ok u) : Gives env known d u

/-- The parser at which the wrappers around a type end raises nothing but refusals, and neither do
the constructors on the way to it for the values that they are given. -/
structure Refuses (env : Environment) (known : Descriptor → Option Converter) (d : Descriptor) :
    Prop where
  parser : ∀ {leaf c raw e}, Innermost env d leaf → known leaf = some c → c.parse raw = .error e →
    e.IsRefusal
  constructor : ∀ {w inner v e}, Unwraps env d w → env.kind w = .wrapper →
    env.unwrap w = .ok inner → Gives env known inner v → env.wrap w v = .error e → e.IsRefusal

variable {known : Descriptor → Option Converter}

/-- Below a wrapper the same parsers and constructors are called, so they refuse as well. -/
theorem Refuses.inner {inner : Descriptor} (h : Refuses env known d)
    (hkind : env.kind d = .wrapper) (hunwrap : env.unwrap d = .ok inner) :
    Refuses env known inner where
  parser hleaf := h.parser ⟨.step hkind hunwrap hleaf.1, hleaf.2⟩
  constructor hway := h.constructor (.step hkind hunwrap hway)

/-- **A converter raises what the parser and the constructors that it is made of raise.** Induction
on the wrappers. -/
theorem Derives.yields {c : Converter} (hc : Derives env known d (.ok c))
    (h : Refuses env known d) : c.Yields (Gives env known d) Error.IsRefusal := by
  generalize hx : (Except.ok c : Except Error Converter) = x at hc
  induction hc generalizing c with
  | known hkind hknown =>
    cases hx
    exact ⟨.parsed hkind hknown, h.parser ⟨.refl _, hkind⟩ hknown, .default hkind hknown⟩
  | unknown | notUnwrapped | innerFails => cases hx
  | @mapped d inner c₀ hkind hunwrap _ ih =>
    have hinner := ih (h.inner hkind hunwrap) rfl
    exact hinner.map (fun _ _ hv hwrap => .made hkind hunwrap hv hwrap)
      (fun _ _ => h.constructor (.refl d) hkind hunwrap) hx.symm

/-! ## Converting a text -/

/-- A text that is read is converted, whatever the flags. -/
theorem Converter.convert_of_ok {c : Converter} {raw : String} {v : Value} (h : c.parse raw = .ok v)
    (nullable : Bool) : c.convert raw nullable = .ok (.value v) := by
  rw [convert, h]

/-- An unfit text is converted as the flags say, in this order: a strict converter reports it, null
takes it, a lenient converter puts its default in its place. -/
theorem Converter.convert_of_unfit {c : Converter} {raw : String} {e : Error}
    (h : c.parse raw = .error e) (hfit : e.isUnfitText = true) (nullable : Bool) :
    c.convert raw nullable =
      if c.strict then .ok (.failure e)
      else if nullable then .ok (.value .null)
      else match c.lenient, c.default with
        | true, some v => .ok (.value v)
        | _, _ => .ok (.failure e) := by
  rw [convert, h]
  show (if !e.isUnfitText then (.error e : Except Error Conversion) else _) = _
  rw [hfit]
  rfl

/-- An unfit text becomes null where that is allowed; where it is not, a lenient converter falls
back to its default. -/
theorem Converter.convert_of_refused {c : Converter} {raw : String} {e : Error} {v : Value}
    (h : c.parse raw = .error e) (hfit : e.isUnfitText = true) (hstrict : c.strict = false)
    (hdefault : c.default = some v) :
    c.convert raw true = .ok (.value .null) ∧
      c.convert raw false = .ok (if c.lenient then .value v else .failure e) := by
  have hconvert := convert_of_unfit h hfit
  simp only [hstrict, hdefault, Bool.false_eq_true, if_false] at hconvert
  refine ⟨hconvert true, (hconvert false).trans ?_⟩
  cases c.lenient <;> rfl

/-- Converting a text fails only with an error of the parser that does not speak of the text. -/
theorem Converter.error_of_convert {c : Converter} {raw : String} {nullable : Bool} {e : Error}
    (h : c.convert raw nullable = .error e) : c.parse raw = .error e ∧ e.isUnfitText = false := by
  unfold Converter.convert at h
  split at h
  · cases h
  · next e' hparse =>
    split at h
    · next hfit =>
      cases h
      exact ⟨hparse, by simpa using hfit⟩
    · split at h
      · cases h
      · split at h
        · cases h
        · split at h <;> cases h

/-- A value comes from the parser, or is null, or is the default. -/
theorem Converter.value_of_convert {c : Converter} {raw : String} {nullable : Bool} {v : Value}
    (h : c.convert raw nullable = .ok (.value v)) :
    c.parse raw = .ok v ∨ v = .null ∨ c.default = some v := by
  unfold Converter.convert at h
  split at h
  · next v' hparse =>
    cases h
    exact .inl hparse
  · split at h
    · cases h
    · split at h
      · cases h
      · split at h
        · cases h
          exact .inr (.inl rfl)
        · split at h
          · next hdefault =>
            cases h
            exact .inr (.inr hdefault)
          · cases h

/-! ## The converters that every program knows -/

/-- The parser gives values that can be hashed and refuses texts as unfit. -/
def Reads (parse : String → Except Error Value) : Prop :=
  (∀ raw v, parse raw = .ok v → v.unhashable? = none) ∧
    ∀ raw e, parse raw = .error e → e.isUnfitText = true

/-- A reader of texts yields values that can be hashed, and refuses all else as unfit. -/
theorem Reads.yields {c : Converter} (h : Reads c.parse)
    (hdefault : ∀ v, c.default = some v → v.unhashable? = none) :
    c.Yields (fun v => v.unhashable? = none) Error.IsRefusal :=
  ⟨h.1 _ _, fun hparse => .inl (h.2 _ _ hparse), hdefault _⟩

/-- Wrapping what a reader reads. -/
theorem reads_map {α : Type} {read : String → Except Error α} {wrap : α → Value}
    (hwrap : ∀ a, (wrap a).unhashable? = none)
    (hread : ∀ raw e, read raw = .error e → e.isUnfitText = true) :
    Reads fun raw => (read raw).map wrap := by
  refine ⟨fun raw v h => ?_, fun raw e h => ?_⟩
  · obtain ⟨a, -, rfl⟩ := map_eq_ok_iff.1 h
    exact hwrap a
  · exact hread raw e (map_eq_error_iff.1 h)

/-- The readers of dates and times read texts, if their values can be hashed. -/
theorem reads_timeParser {α : Type} {read : String → Except Time.Fault α} {wrap : α → Value}
    (hwrap : ∀ a, (wrap a).unhashable? = none) : Reads (timeParser read wrap) := by
  refine ⟨fun raw v h => ?_, fun raw e h => ?_⟩
  · unfold timeParser at h
    split at h
    · cases h
      exact hwrap _
    · cases h
  · unfold timeParser at h
    split at h
    · cases h
    · next fault _ =>
      cases h
      cases fault <;> rfl

/-- What is read as an integer is one. -/
theorem exists_integer_of_read {t : Number.IntegerType} {raw : String} {v : Value}
    (h : t.read raw = .ok v) : ∃ n, v = .integer t n := by
  unfold Number.IntegerType.read at h
  split at h
  · cases h
  · split at h
    · cases h
    · simp only at h
      split at h <;> cases h
      exact ⟨_, rfl⟩

/-- The readers of integers read texts. -/
theorem reads_integer (t : Number.IntegerType) : Reads t.read := by
  refine ⟨fun raw v h => ?_, fun raw e h => ?_⟩
  · obtain ⟨n, rfl⟩ := exists_integer_of_read h
    rfl
  · unfold Number.IntegerType.read at h
    split at h
    · cases h
      rfl
    · split at h
      · cases h
        rfl
      · simp only at h
        split at h <;> cases h
        rfl

theorem isUnfitText_of_decimal {raw : String} {e : Error} (h : Number.Decimal.read raw = .error e) :
    e.isUnfitText = true := by
  unfold Number.Decimal.read at h
  split at h
  · simp only at h
    split at h <;> cases h
    rfl
  · cases h
    rfl

theorem isUnfitText_of_double {raw : String} {e : Error} (h : Number.Double.read raw = .error e) :
    e.isUnfitText = true := by
  unfold Number.Double.read at h
  simp only at h
  split at h
  · cases h
  · split at h
    · cases h
    · split at h
      · cases h
      · split at h <;> cases h
        rfl
      · cases h
        rfl

theorem isUnfitText_of_uuid {raw : String} {e : Error} (h : Uuid.read raw = .error e) :
    e.isUnfitText = true := by
  unfold Uuid.read at h
  split at h <;> cases h
  rfl

theorem reads_double (single : Bool) :
    Reads fun raw => (Number.Double.read raw).map (.double single) :=
  reads_map (fun _ => rfl) fun _ _ => isUnfitText_of_double

/-- **The converters of the leaf types refuse texts as unfit and nothing else**, and their values
can be hashed. -/
theorem yields_leafConverters (zones : Time.ZoneDirectory) (lenient : Bool) :
    ∀ c ∈ leafConverters zones lenient,
      c.Yields (fun v => v.unhashable? = none) Error.IsRefusal := by
  have hdefault : ∀ {v : Value}, v.unhashable? = none →
      ∀ w, some v = some w → w.unhashable? = none := by
    rintro v hv _ ⟨⟩
    exact hv
  have hnone : ∀ w, (none : Option Value) = some w → w.unhashable? = none := by
    rintro _ ⟨⟩
  have hnumeric : ∀ c ∈ numericConverters lenient,
      c.Yields (fun v => v.unhashable? = none) Error.IsRefusal := by
    -- one bullet for each numeric type, in the order of the list; all of them have a default
    unfold numericConverters
    simp only [List.forall_mem_cons]
    refine ⟨?_, ?_, ?_, ?_, ?_, ?_, ?_, ?_, fun _ h => (List.not_mem_nil h).elim⟩
    · exact Reads.yields (reads_integer _) (hdefault rfl)
    · exact Reads.yields (reads_integer _) (hdefault rfl)
    · exact Reads.yields (reads_integer _) (hdefault rfl)
    · exact Reads.yields (reads_integer _) (hdefault rfl)
    · exact Reads.yields (reads_integer _) (hdefault rfl)
    · exact Reads.yields (reads_map (fun _ => rfl) fun _ _ => isUnfitText_of_decimal) (hdefault rfl)
    · exact Reads.yields (reads_double false) (hdefault rfl)
    · exact Reads.yields (reads_double true) (hdefault rfl)
  have htext : ∀ {wrap : String → Value}, (∀ raw, (wrap raw).unhashable? = none) →
      Reads fun raw => .ok (wrap raw) := by
    intro wrap hwrap
    refine ⟨?_, ?_⟩
    · rintro raw _ ⟨⟩
      exact hwrap raw
    · rintro raw _ ⟨⟩
  have hplain : ∀ c ∈ plainConverters zones,
      c.Yields (fun v => v.unhashable? = none) Error.IsRefusal := by
    unfold plainConverters
    simp only [List.forall_mem_cons]
    -- one for each of the others: text, stream, identifier and the seven types of time
    refine ⟨?_, ?_, ?_, ?_, ?_, ?_, ?_, ?_, ?_, ?_, fun _ h => (List.not_mem_nil h).elim⟩
    · exact Reads.yields (htext fun _ => rfl) (hdefault rfl)
    · exact Reads.yields (htext fun _ => rfl) hnone
    · exact Reads.yields (reads_map (fun _ => rfl) fun _ _ => isUnfitText_of_uuid) hnone
    · exact Reads.yields (reads_timeParser fun _ => rfl) hnone
    · exact Reads.yields (reads_timeParser fun _ => rfl) hnone
    · exact Reads.yields (reads_timeParser fun _ => rfl) hnone
    · exact Reads.yields (reads_timeParser fun _ => rfl) hnone
    · exact Reads.yields (reads_timeParser fun _ => rfl) hnone
    · exact Reads.yields (reads_timeParser fun _ => rfl) hnone
    · exact Reads.yields (reads_timeParser fun _ => rfl) hnone
  intro c hc
  rcases List.mem_append.1 hc with hc | hc
  · exact hnumeric c hc
  · exact hplain c hc

/-- The converter of an enumeration reads texts. -/
theorem reads_enumeration (e : Enumeration) (target : Descriptor) (ref : ClassRef) (strict : Bool) :
    Reads (e.converter target ref strict).parse := by
  refine ⟨fun raw v h => ?_, fun raw err h => ?_⟩
  · unfold Enumeration.converter at h
    simp only at h
    split at h <;> cases h
    rfl
  · unfold Enumeration.converter at h
    simp only at h
    split at h <;> cases h
    rfl

/-- What is installed is found again. -/
theorem mem_of_installed {cs : List Converter} {r : Registry} {key : Descriptor} {i : Installed}
    (h : (cs.foldl (fun r c => (r.install c.target c).1) r).entries.get? key = some i) :
    i.converter ∈ cs ∨ r.entries.get? key = some i := by
  induction cs generalizing r with
  | nil => exact .inr h
  | cons c cs ih =>
    rcases ih h with hmem | hentry
    · exact .inl (List.mem_cons_of_mem c hmem)
    · replace hentry : (r.entries.set c.target.nonNull ⟨c, r.issued⟩).get? key = some i := hentry
      rw [Table.get?_set] at hentry
      split at hentry
      · cases hentry
        exact .inl List.mem_cons_self
      · exact .inr hentry

/-- **In a standard registry, so do all converters**, those of enumerations included. -/
theorem Registry.yields_standard {zones : Time.ZoneDirectory} {lenient : Bool} {c : Converter}
    (h : (Registry.standard zones lenient).converterOf? env d = some c) :
    c.Yields (fun v => v.unhashable? = none) Error.IsRefusal := by
  unfold Registry.converterOf? at h
  split at h
  · next i hentry =>
    cases h
    rcases mem_of_installed hentry with hmem | hempty
    · exact yields_leafConverters zones lenient _ hmem
    · rw [Registry.empty, Table.get?_empty] at hempty
      cases hempty
  · obtain ⟨⟨ref, e, strict⟩, -, rfl⟩ := Option.map_eq_some_iff.1 h
    exact Reads.yields (reads_enumeration e _ ref strict) (by rintro _ ⟨⟩)

/-- Around the converters of a standard registry, only constructors may raise anything else. -/
theorem Registry.refuses_standard {zones : Time.ZoneDirectory} {lenient : Bool}
    (h : ∀ {w inner v e}, Unwraps env d w → env.kind w = .wrapper → env.unwrap w = .ok inner →
      Gives env ((Registry.standard zones lenient).converterOf? env) inner v →
      env.wrap w v = .error e → e.IsRefusal) :
    Refuses env ((Registry.standard zones lenient).converterOf? env) d where
  parser _ hknown hparse := (Registry.yields_standard hknown).raised hparse
  constructor := h

end ApiShape
