import ApiShape.Proofs.Converter.Memo
import ApiShape.Proofs.Schema.Layer

/-!
# The schema that is published and the converter that decodes

The schema of a wrapper is looked up where the wrappers end, in the registry as it is. Its converter
was made from the one that stood there when the wrapper was first asked for. The two agree as long
as that one is not replaced.

* **`wp_converterFor_of_closed`** — what holds of the converters of the registry and is handed on to
  wrappers holds of every converter that is derived, whatever the memo started with.
* `Kept.use`, `Kept.steps` — so it holds along a history of uses and registrations;
  `Kept.onTheWay_run` is the case of the wrappers around one type.
* **`Innermost.wp_synthesise`** — synthesis ends in the schema at the end of the wrappers.
* **`Environment.build_eq_converter_schema`** — the schema that is built for a type is that of its
  converter, unless its innermost type was registered after a wrapper around it had been derived.
* `Environment.registered_late` — after such a registration they differ.
-/

namespace ApiShape

open ApiShape.Action

variable {env : Environment} {d : Descriptor}

/-! ## What is handed on to wrappers -/

/-- A property of converters that holds of those that are known, and of the converter of a wrapper
if it holds of the one that it is made from. -/
structure Closed (env : Environment) (known : Descriptor → Option Converter)
    (good : Descriptor → Converter → Prop) : Prop where
  known : ∀ {d c}, env.kind d ≠ .wrapper → known d.nonNull = some c → good d.nonNull c
  mapped : ∀ {d inner c c'}, env.kind d = .wrapper → env.unwrap d = .ok inner →
    good inner.nonNull c → c.map (env.wrap d.nonNull) d.nonNull = .ok c' → good d.nonNull c'

/-- The registry knows the converters of the types that are no wrappers, and the property holds of
what the memo remembers. Unlike in a consistent state, that need not be what would be derived
now. -/
structure Kept (env : Environment) (known : Descriptor → Option Converter)
    (good : Descriptor → Converter → Prop) (s : State) : Prop where
  registry : ∀ d, env.kind d ≠ .wrapper → s.registry.converterOf? env d = known d
  derived : ∀ d i, s.derived.get? d = some i → env.kind d = .wrapper ∧ good d i.converter

variable {known : Descriptor → Option Converter} {good : Descriptor → Converter → Prop} {s : State}

/-- Before any wrapper has been derived, whatever is to be kept is. -/
theorem kept_of_derived_eq_empty (env : Environment) (good : Descriptor → Converter → Prop)
    (hnew : s.derived = ∅) : Kept env (s.registry.converterOf? env) good s where
  registry _ _ := rfl
  derived d i hmemo := by
    rw [hnew, Table.get?_empty] at hmemo
    cases hmemo

namespace Kept

/-- Only the registry and the memo matter. -/
theorem of_eq {s' : State} (h : Kept env known good s) (hregistry : s'.registry = s.registry)
    (hderived : s'.derived = s.derived) : Kept env known good s' where
  registry := hregistry ▸ h.registry
  derived := hderived ▸ h.derived

/-- Remembering a good converter for a wrapper keeps the others good. -/
theorem keep (h : Kept env known good s) (hkind : env.kind d = .wrapper) {c : Converter}
    (hc : good d.nonNull c) (journal : Journal) :
    Kept env known good
      { s with
        registry := (s.registry.install d.nonNull c).1
        derived := s.derived.set d.nonNull (s.registry.install d.nonNull c).2
        journal } where
  registry d' hkind' :=
    (Registry.converterOf?_install_wrapper _ _ hkind hkind').trans (h.registry d' hkind')
  derived d' i hmemo := by
    rw [Table.get?_set] at hmemo
    split at hmemo
    · next heq =>
      subst heq
      obtain rfl := Option.some.inj hmemo
      exact ⟨hkind, hc⟩
    · exact h.derived d' i hmemo

/-- Looking up a converter gives what is known of a type, unless it is a wrapper. -/
theorem wp_resolve (h : Kept env known good s) (d : Descriptor) :
    wp (Action.resolve env d)
      (fun i s' => Kept env known good s' ∧
        (env.kind d ≠ .wrapper → known d.nonNull = some i.converter))
      (fun _ s' => Kept env known good s') s := by
  simp only [Action.resolve, wp_bind, wp_get]
  rcases s.registry.resolve_cases env d with
    ⟨r', i, hresolve, hknows, hsame⟩ | ⟨hresolve, -⟩
  · rw [hresolve, wp_ofExcept_ok, wp_modify, wp_pure]
    refine ⟨⟨fun d' hkind' => ?_, h.derived⟩, fun hkind => ?_⟩
    · rw [hsame]
      exact h.registry d' hkind'
    · rw [← h.registry d.nonNull hkind]
      exact hknows
  · rw [hresolve, wp_ofExcept_error]
    exact h

end Kept

/-- **What is closed holds of every converter that is given.** Induction on the budget, as for the
answers from a consistent state. -/
theorem wp_converterFor_of_closed (hclosed : Closed env known good) (budget : Nat) :
    ∀ (d : Descriptor) (s : State), Kept env known good s →
      wp (env.converterFor budget d)
        (fun i s' => Kept env known good s' ∧ good d.nonNull i.converter)
        (fun _ s' => Kept env known good s') s := by
  induction budget with
  | zero => exact fun _ _ h => h
  | succ budget ih =>
    intro d s h
    refine wp_converterFor_succ ?_ ?_ ?_ ?_
    · -- the registry answers, and what is known of a leaf is good
      intro hkind
      refine wp_mono (h.wp_resolve d.nonNull) ?_ fun _ _ h' => h'
      rintro i s' ⟨h', hknown⟩
      exact ⟨h', hclosed.known hkind (hknown hkind)⟩
    · -- what the memo keeps is good by assumption
      intro _ i hmemo
      exact ⟨h, (h.derived _ i hmemo).2⟩
    · exact fun _ _ _ => h
    · -- derived anew: good below, hence good here
      intro hkind _ inner hunwrap
      refine wp_mono (ih inner s h) ?_ fun _ _ h' => h'
      rintro below s' ⟨h', hbelow⟩
      cases hmap : below.converter.map (env.wrap d.nonNull) d.nonNull with
      | error e => exact h'
      | ok c =>
        have hc := hclosed.mapped hkind hunwrap hbelow hmap
        exact fun journal => ⟨h'.keep hkind hc journal, hc⟩

/-- No use of the registry and the memo remembers a converter that is not good. -/
theorem Kept.use (hclosed : Closed env known good) (h : Kept env known good s) (use : Use) :
    Kept env known good (use.run env s) := by
  have hresolve : ∀ d, Keeps (Kept env known good) (Action.resolve env d) := fun d s h =>
    wp_mono (h.wp_resolve d) (fun _ _ h' => h'.1) fun _ _ h' => h'
  have hconverter : ∀ budget d, Keeps (Kept env known good) (env.converterFor budget d) :=
    fun budget d s h =>
      wp_mono (wp_converterFor_of_closed hclosed budget d s h) (fun _ _ h' => h'.1) fun _ _ h' => h'
  cases use with
  -- building asks the registry alone; decoding asks for converters too
  | build bp d =>
    exact snd_of_wp (Blueprint.keeps_build { bp with env } hresolve
      (fun _ _ _ _ _ h => h.of_eq rfl rfl) d s h)
  | decode dec a raw =>
    exact snd_of_wp (Decoder.keeps_decode { dec with env } (hconverter _)
      (fun _ _ h => h.of_eq rfl rfl) (fun _ _ h => h.of_eq rfl rfl) a raw s h)
  | resolve d => exact snd_of_wp (hresolve d s h)
  | derive budget d =>
    have hderive : Keeps (Kept env known good) (env.derive budget d) := by
      unfold Environment.derive
      split
      · exact (keeps_throw _).bind fun _ => hconverter budget d
      · exact hconverter budget d
    exact snd_of_wp (hderive s h)
  | converterFor budget d => exact snd_of_wp (hconverter budget d s h)

/-! ## Registrations -/

/-- A use of the converters, or the registration of a converter made from a parser. -/
inductive Step where
  | use (u : Use)
  | register (d : Descriptor) (parse : String → Except Error Value) (default : Option Value)
      (schema : Schema) (lenient strict : Bool)

/-- The state that a step leaves behind. -/
def Step.run (env : Environment) (s : State) : Step → State
  | .use u => u.run env s
  | .register d parse default schema lenient strict =>
    { s with registry := (s.registry.register d parse default schema lenient strict).1 }

/-- The step does not register the type at which the wrappers around `d` end, once one of these
wrappers is remembered. -/
def Step.InTime (env : Environment) (d leaf : Descriptor) (s : State) : Step → Prop
  | .use _ => True
  | .register d' _ _ _ _ _ => d'.nonNull = leaf →
    ∀ w, Unwraps env d w → env.kind w = .wrapper → s.derived.get? w = none

/-- No step of a history comes too late for the wrappers around `d`. -/
def InTime (env : Environment) (d leaf : Descriptor) : State → List Step → Prop
  | _, [] => True
  | s, step :: steps => step.InTime env d leaf s ∧ InTime env d leaf (step.run env s) steps

/-- Every remembered converter is for a type whose wrappers end. -/
def Ends (env : Environment) (d : Descriptor) (_ : Converter) : Prop := ∃ leaf, Innermost env d leaf

/-- On the way from `d` to its innermost type, converters have the schema of that of the innermost
type. -/
def SameSchema (env : Environment) (known : Descriptor → Option Converter) (d leaf w : Descriptor)
    (c : Converter) : Prop :=
  Unwraps env d w → ∃ inner, known leaf = some inner ∧ c.schema = inner.schema

/-- A registration never comes too late for a type that is no wrapper: nothing of it is
remembered. -/
theorem inTime_of_leaf (hkind : env.kind d ≠ .wrapper) (leaf : Descriptor) (s : State)
    (steps : List Step) : InTime env d leaf s steps := by
  induction steps generalizing s with
  | nil => exact trivial
  | cons step steps ih =>
    refine ⟨?_, ih _⟩
    cases step with
    | use => exact trivial
    | register =>
      intro _ w hway hwrapper
      exact absurd hwrapper (hway.kind_ne hkind)

/-- Building values leaves the schema as it is. -/
theorem schema_of_map {c c' : Converter} {build : Value → Except Error Value}
    (h : c.map build d = .ok c') : c'.schema = c.schema := by
  obtain ⟨default, -, rfl⟩ := ok_of_map h
  rfl

/-- Having a type at the end is closed under derivation. -/
theorem closed_ends (env : Environment) (known : Descriptor → Option Converter) :
    Closed env known (Ends env) where
  known {d _} hkind _ := ⟨d.nonNull, .refl d.nonNull, hkind⟩
  mapped {d inner _ _} hkind hunwrap hinner _ := by
    obtain ⟨leaf, hleaf⟩ := hinner
    obtain ⟨hway, hleafKind⟩ := innermost_nonNull.1 hleaf
    exact ⟨leaf, unwraps_nonNull.2 (.step hkind hunwrap hway), hleafKind⟩

/-- Having the schema of the innermost type is closed under derivation. -/
theorem closed_sameSchema {leaf : Descriptor} (hleaf : Innermost env d leaf) :
    Closed env known (SameSchema env known d leaf) where
  known {e c} hkind hknown hway := by
    obtain rfl := hleaf.unique ⟨hway, hkind⟩
    exact ⟨c, hknown, rfl⟩
  mapped {w inner c c'} hkind hunwrap hinner hmap hway := by
    obtain ⟨c₀, hknown, hschema⟩ := hinner (hway.unwrap hkind hunwrap)
    exact ⟨c₀, hknown, (schema_of_map hmap).trans hschema⟩

/-- **What is closed holds along a history**, if registrations leave it true of what is remembered.
Induction on the history; what is known changes with each registration. -/
theorem Kept.steps (good : (Descriptor → Option Converter) → Descriptor → Converter → Prop)
    (during : State → List Step → Prop) (hclosed : ∀ known, Closed env known (good known))
    (hnext : ∀ s step rest, during s (step :: rest) → during (step.run env s) rest)
    (hregister : ∀ known s d parse default schema lenient strict rest,
      Kept env known (good known) s →
      during s (.register d parse default schema lenient strict :: rest) →
      ∀ w i, s.derived.get? w = some i →
        good ((s.registry.register d parse default schema lenient strict).1.converterOf? env) w
          i.converter)
    (h : Kept env known (good known) s) (steps : List Step) (hduring : during s steps) :
    ∃ known', Kept env known' (good known') (steps.foldl (Step.run env) s) := by
  induction steps generalizing known s with
  | nil => exact ⟨known, h⟩
  | cons step steps ih =>
    have hrest := hnext s step steps hduring
    cases step with
    | use u => exact ih (h.use (hclosed known) u) hrest
    -- registration changes what is known, so what the memo keeps has to be good anew
    | register d parse default schema lenient strict =>
      refine ih ⟨fun _ _ => rfl, fun w i hmemo => ⟨(h.derived w i hmemo).1, ?_⟩⟩ hrest
      exact hregister known s d parse default schema lenient strict steps h hduring w i hmemo

/-- After any run, what is remembered was derived for wrappers that can be unwrapped. -/
theorem Kept.ends_run (h : Kept env known (Ends env) s) (steps : List Step) :
    ∃ known', Kept env known' (Ends env) (steps.foldl (Step.run env) s) := by
  refine Kept.steps (fun _ => Ends env) (fun _ _ => True) (closed_ends env)
    (fun _ _ _ _ => trivial) ?_ h steps trivial
  intro known s d parse default schema lenient strict rest h _ w i hmemo
  exact (h.derived w i hmemo).2

/-- On the way from `d` to `leaf`, converters stand in a relation to the one known of `leaf`. -/
def OnTheWay (env : Environment) (known : Descriptor → Option Converter) (d leaf : Descriptor)
    (R : Descriptor → Converter → Converter → Prop) (w : Descriptor) (c : Converter) : Prop :=
  Unwraps env d w → ∃ inner, known leaf = some inner ∧ R w inner c

/-- **Along a history without late registrations, the converters of the wrappers around a type keep
their relation to the innermost one.** -/
theorem Kept.onTheWay_run {leaf : Descriptor} {R : Descriptor → Converter → Converter → Prop}
    (hleaf : Innermost env d leaf)
    (hclosed : ∀ known, Closed env known (OnTheWay env known d leaf R))
    (h : Kept env known (OnTheWay env known d leaf R) s) (steps : List Step)
    (htime : InTime env d leaf s steps) :
    ∃ known', Kept env known' (OnTheWay env known' d leaf R) (steps.foldl (Step.run env) s) := by
  refine Kept.steps (fun known => OnTheWay env known d leaf R) (InTime env d leaf) hclosed
    (fun _ _ _ h => h.2) ?_ h steps htime
  intro known s d' parse default schema lenient strict rest h hduring w i hmemo hway
  obtain ⟨hkind, hgood⟩ := h.derived w i hmemo
  obtain ⟨inner, hknown, hinner⟩ := hgood hway
  -- a wrapper on the way is remembered, so what has been registered is not the innermost type
  have hne : d'.nonNull ≠ leaf.nonNull := by
    rw [hleaf.1.nonNull_eq]
    intro heq
    have hnone : s.derived.get? w = none := hduring.1 heq w hway hkind
    cases hnone.symm.trans hmemo
  refine ⟨inner, ?_, hinner⟩
  rw [← hknown, ← h.registry leaf hleaf.2]
  exact Registry.converterOf?_install _ _ hne

/-- After any run that registers the innermost type in time, the converters on the way to it have
its schema. -/
theorem Kept.sameSchema_run {leaf : Descriptor} (hleaf : Innermost env d leaf)
    (h : Kept env known (SameSchema env known d leaf) s) (steps : List Step)
    (htime : InTime env d leaf s steps) :
    ∃ known', Kept env known' (SameSchema env known' d leaf) (steps.foldl (Step.run env) s) :=
  Kept.onTheWay_run (R := fun _ inner c => c.schema = inner.schema) hleaf
    (fun _ => closed_sameSchema hleaf) h steps htime

/-! ## Synthesis -/

theorem Registry.schemaOf?_eq (r : Registry) :
    r.schemaOf? env d = (r.converterOf? env d).map (·.schema) := by
  rw [schemaOf?]
  rcases r.resolve_cases env d with ⟨r', i, hresolve, hknows, -⟩ | ⟨hresolve, hnone⟩
  · rw [hresolve, hknows]
    rfl
  · rw [hresolve, hnone]
    rfl

/-- **Synthesis ends in the schema of the innermost type**, as soon as the budget is large enough.
Induction on the wrappers. -/
theorem Innermost.wp_synthesise {leaf : Descriptor} {schema : Schema}
    (h : Innermost env d leaf) (hstream : env.kind leaf ≠ .stream) :
    ∃ depth, ∀ bp : Blueprint, bp.env = env → ∀ budget ≥ depth, ∀ s : State,
      s.registry.schemaOf? env leaf = some schema →
      wp (bp.synthesise budget d) (fun x _ => x = schema) (fun _ _ => False) s := by
  obtain ⟨hway, hkind⟩ := h
  induction hway with
  -- at the leaf the registry has the schema, unless the leaf is a stream
  | refl d =>
    refine ⟨1, fun bp henv budget hbudget s hschema => ?_⟩
    subst henv
    obtain ⟨n, rfl⟩ := Nat.exists_eq_add_of_le' hbudget
    refine Blueprint.wp_synthesise ?_
    have hlayer : bp.env.layer (s.registry.schemaOf? bp.env) d = .inline schema := by
      have hstream' : bp.env.kind d ≠ .stream := hstream
      have hkind' : bp.env.kind d ≠ .wrapper := hkind
      unfold Environment.layer
      split
      · next heq => exact absurd heq hstream'
      · next heq => exact absurd heq hkind'
      · rw [hschema]
    rw [hlayer]
    exact fun _ _ => rfl
  -- a wrapper is translated as its inner type, with one level of the budget less
  | step hwrapper hinner _ ih =>
    obtain ⟨depth, hdepth⟩ := ih hstream hkind
    refine ⟨depth + 1, fun bp henv budget hbudget s hschema => ?_⟩
    subst henv
    obtain ⟨n, rfl⟩ : ∃ n, budget = n + 1 := ⟨budget - 1, by omega⟩
    refine Blueprint.wp_synthesise ?_
    simp only [Environment.layer, hwrapper, hinner, Layer.ofInner]
    exact hdepth bp rfl n (by omega) s hschema

/-- What synthesis cannot fail to give is built. -/
theorem Blueprint.run_build_of_synthesise {bp : Blueprint} {schema : Schema}
    (h : wp (bp.synthesise bp.budget d) (fun x _ => x = schema) (fun _ _ => False) s) :
    ((bp.build d).run s).1 = .ok schema := by
  have hbuild : wp (bp.build d) (fun x _ => x = schema) (fun _ _ => False) s := by
    rw [Blueprint.build, wp_bind, wp_get, wp_onError]
    exact wp_mono h (fun _ _ hx => hx) fun _ _ hfalse => hfalse.elim
  cases hrun : (bp.build d).run s with
  | mk result s' =>
    cases result with
    | ok x => rw [post_of_run hbuild hrun]
    | error e => exact (fail_of_run hbuild hrun).elim

namespace Environment

/-- **The schema that is built for a type is that of its converter.** After any history of uses and
registrations, of types that have been used before, too: if the type has a converter, its wrappers
end, and unless they end at a stream, every build that is allowed to go deep enough gives the schema
of the converter. For a wrapper this asks that the type at which the wrappers end was not registered
after one of them had been derived; the converter that is remembered is not made again. -/
theorem build_eq_converter_schema (env : Environment) (s : State) (hnew : s.derived = ∅)
    (steps : List Step) (d : Descriptor) (budget : Nat) (i : Installed) :
    let after := steps.foldl (Step.run env) s
    ((env.converterFor budget d).run after).1 = .ok i →
      ∃ leaf, Innermost env d leaf ∧ (env.kind leaf ≠ .stream →
        (env.kind d = .wrapper → InTime env d leaf s steps) →
        ∃ depth, ∀ bp : Blueprint, bp.env = env → depth ≤ bp.budget →
          ((bp.build d).run after).1 = .ok i.converter.schema) := by
  intro after hconverter
  obtain ⟨s', hrun⟩ : ∃ s', (env.converterFor budget d).run after = (.ok i, s') :=
    ⟨_, Prod.ext hconverter rfl⟩
  obtain ⟨known, hends⟩ := (kept_of_derived_eq_empty env (Ends env) hnew).ends_run steps
  obtain ⟨leaf, hleaf⟩ := (post_of_run
    (wp_converterFor_of_closed (closed_ends env known) budget d after hends) hrun).2
  rw [innermost_nonNull] at hleaf
  refine ⟨leaf, hleaf, fun hstream hwrapped => ?_⟩
  -- a type that is no wrapper is its own leaf, and nothing is kept for it
  have htime : InTime env d leaf s steps := by
    by_cases hkind : env.kind d = .wrapper
    · exact hwrapped hkind
    · exact inTime_of_leaf hkind leaf s steps
  obtain ⟨known, hkept⟩ := (kept_of_derived_eq_empty env
    (SameSchema env (s.registry.converterOf? env) d leaf) hnew).sameSchema_run hleaf steps htime
  obtain ⟨c, hknown, hschema⟩ := (post_of_run
    (wp_converterFor_of_closed (closed_sameSchema hleaf) budget d after hkept) hrun).2 (.refl d)
  -- the converter and the registry agree on the leaf, and building asks the registry there
  have hregistry : after.registry.schemaOf? env leaf = some i.converter.schema := by
    rw [Registry.schemaOf?_eq, hkept.registry leaf hleaf.2, hknown, hschema]
    rfl
  obtain ⟨depth, hdepth⟩ := hleaf.wp_synthesise hstream
  exact ⟨depth, fun bp henv hbudget =>
    Blueprint.run_build_of_synthesise (hdepth bp henv bp.budget hbudget after hregistry)⟩

open ApiShape.Sample

namespace Sample

/-- Bids wrap a price, which wraps a whole number. -/
def market : Environment := ⟨[
  wrapperClass "Price" number [],
  wrapperClass "Bid" (.union [classExpr "Price", .null]) []]⟩

/-- Whole numbers are read as texts from now on. -/
def registerText : Step :=
  .register (.ofBuiltin .int) (fun raw => .ok (.text raw)) none .string false false

/-- Whole numbers have been built and converted before they are registered again; bids are only
derived then, and prices with them. -/
def registeredInTime : List Step :=
  [.use (.build { env := market } (classType "Bid")),
    .use (.converterFor 9 (.ofBuiltin .int)),
    registerText, .use (.derive 9 (classType "Bid")), .use (.derive 9 (classType "Price"))]

end Sample

open Environment.Sample

/-- Bids have the schema of texts and a converter to match. -/
theorem build_eq_converter_schema_bid :
    let after := registeredInTime.foldl (Step.run market) fresh
    ∃ depth, ∀ bp : Blueprint, bp.env = market → depth ≤ bp.budget →
      ((bp.build (classType "Bid")).run after).1 = .ok .string := by
  intro after
  obtain ⟨i, hi, hschema⟩ : ∃ i, ((market.converterFor 9 (classType "Bid")).run after).1 = .ok i ∧
      i.converter.schema = .string := ⟨_, rfl, rfl⟩
  obtain ⟨leaf, hleaf, hbuild⟩ :=
    build_eq_converter_schema market fresh rfl registeredInTime (classType "Bid") 9 i hi
  have hint : Innermost market (classType "Bid") (.ofBuiltin .int) :=
    ⟨.step rfl rfl (.step rfl rfl (.refl (.ofBuiltin .int))), by decide⟩
  obtain rfl := hleaf.unique hint
  -- nothing is remembered when whole numbers are registered
  have htime : InTime market (classType "Bid") (.ofBuiltin .int) fresh registeredInTime :=
    ⟨trivial, trivial, fun _ _ _ _ => rfl, trivial, trivial, trivial⟩
  rw [hschema] at hbuild
  exact hbuild (by decide) fun _ => htime

/-- **A late registration parts the two.** After the converter of prices has been derived, whole
numbers are registered again: prices are published as texts and decoded as whole numbers. -/
theorem registered_late :
    let after := [.use (.derive 9 (classType "Price")), registerText].foldl (Step.run market) fresh
    (∃ i, ((market.converterFor 9 (classType "Price")).run after).1 = .ok i ∧
      i.converter.schema = .plain "integer" none) ∧
    ((Blueprint.build { env := market } (classType "Price")).run after).1 = .ok .string ∧
    Innermost market (classType "Price") (.ofBuiltin .int) ∧
    market.kind (.ofBuiltin .int) ≠ .stream :=
  ⟨⟨_, rfl, rfl⟩, rfl, ⟨.step rfl rfl (.refl (.ofBuiltin .int)), by decide⟩, by decide⟩

end Environment

end ApiShape
