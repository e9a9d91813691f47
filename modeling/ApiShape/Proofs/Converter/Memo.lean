import ApiShape.Decoder.Basic
import ApiShape.Proofs.Converter.Derivation
import ApiShape.Proofs.Sample
import ApiShape.Schema.Builder

/-!
# The memo of converters is not observed

Builds, decodings and requests for converters share one registry and one memo, and fill both in any
order, also when they fail half-way.

* `Blueprint.keeps_build`, `Decoder.keeps_decode` — a build or a decoding keeps what its parts keep:
  the resolution of types, the derivation of converters, and changes to names, streams and the
  journal.
* **`Consistent.uses`** — so a history of uses leaves a consistent state consistent.
* **`Environment.converterFor_memo_unobserved`** — after any history a type has the converter, or
  the error, that it had before it.
* `Environment.default_refused` — a type can lack a converter although every type is handled: the
  constructor of a wrapper may refuse the default of what it wraps.
-/

namespace ApiShape

open ApiShape.Action

variable {p : State → Prop}

/-! ## What builds and decodings keep -/

namespace Blueprint

variable {bp : Blueprint}

/-- Names, the table and the collisions are what a build changes besides the registry. -/
theorem keeps_store (hnames : ∀ s refs schemas collisions journal, p s →
      p { s with refs, schemas, collisions, journal }) (name : String) (schema : Schema) :
    Keeps p (bp.store name schema) := by
  have hkeep : Keeps p (store.keep name schema) := by
    unfold store.keep
    refine (keeps_modify fun s h => hnames s _ _ _ _ h).bind fun _ => ?_
    refine (keeps_modify fun s h => hnames s _ _ _ _ h).bind fun _ => ?_
    exact keeps_modify fun s h => hnames s _ _ _ _ h
  unfold store
  refine keeps_get.bind fun s => ?_
  split
  · exact hkeep
  · split
    · exact keeps_pure _
    · refine (keeps_modify fun s h => hnames s _ _ _ _ h).bind fun _ => ?_
      refine (keeps_modify fun s h => hnames s _ _ _ _ h).bind fun _ => ?_
      refine (keeps_modify fun s h => hnames s _ _ _ _ h).bind fun _ => ?_
      split
      · exact (keeps_throw _).bind fun _ => hkeep
      · exact hkeep

/-- Naming a type keeps what depends on neither the names nor the table. -/
theorem keeps_named (hnames : ∀ s refs schemas collisions journal, p s →
      p { s with refs, schemas, collisions, journal }) {d : Descriptor} {body : Action Schema}
    (hbody : Keeps p body) : Keeps p (bp.named d body) := by
  unfold named
  refine keeps_get.bind fun s => ?_
  split
  · exact keeps_pure _
  · refine (keeps_modify fun s h => hnames s _ _ _ _ h).bind fun _ => ?_
    refine hbody.bind fun schema => ?_
    exact (keeps_store hnames _ schema).bind fun _ => keeps_pure _

/-- **What resolving a type keeps and names have no part in, synthesis keeps.** -/
theorem keeps_synthesise (hresolve : ∀ d, Keeps p (Action.resolve bp.env d))
    (hnames : ∀ s refs schemas collisions journal, p s →
      p { s with refs, schemas, collisions, journal }) (budget : Nat) :
    ∀ d, Keeps p (bp.synthesise budget d) := by
  induction budget with
  | zero => exact fun _ => keeps_throw _
  | succ budget ih =>
    intro d
    unfold synthesise
    simp only
    split
    · exact keeps_pure _
    · exact (keeps_ofExcept _).bind ih
    · refine keeps_get.bind fun s => ?_
      split
      -- what the registry handles is resolved, also when it is a record or an enumeration
      · exact (hresolve _).bind fun _ => keeps_pure _
      · split
        · exact (keeps_ofExcept _).bind fun d => (ih d).bind fun _ => keeps_pure _
        · exact (keeps_ofExcept _).bind fun d => (ih d).bind fun _ => keeps_pure _
        · refine keeps_named hnames ((keeps_ofExcept _).bind fun fields => ?_)
          refine (Keeps.mapM fun f _ => ?_).bind fun _ => keeps_pure _
          exact (ih _).bind fun _ => keeps_pure _
        · refine keeps_named hnames ((keeps_ofExcept _).bind fun variants => ?_)
          exact (Keeps.mapM fun v _ => ih v).bind fun _ => keeps_pure _
        · exact keeps_throw _

/-- Builds keep what looking up converters keeps, if it depends on neither the names nor the
table. -/
theorem keeps_build (bp : Blueprint) (hresolve : ∀ d, Keeps p (Action.resolve bp.env d))
    (hnames : ∀ s refs schemas collisions journal, p s →
      p { s with refs, schemas, collisions, journal }) (d : Descriptor) :
    Keeps p (bp.build d) := by
  unfold build
  refine keeps_get.bind fun before => ?_
  exact (keeps_synthesise hresolve hnames _ d).onError fun _ =>
    keeps_modify fun s h => hnames s _ _ _ _ h

end Blueprint

namespace Decoder

variable {dec : Decoder}

/-- Adapting a stream keeps what does not depend on the streams that have been read. -/
theorem keeps_adapt (hread : ∀ s spent, p s → p { s with spent }) (name : String)
    (d : Descriptor) (v : Value) : Keeps p (dec.adapt name d v) := by
  have hreadAll : ∀ t, Keeps p (Action.readAll t) := fun t =>
    keeps_get.bind fun _ => (keeps_modify fun s h => hread s _ h).bind fun _ => keeps_pure _
  unfold adapt
  split
  · exact keeps_throw _
  · split
    · split
      · exact keeps_pure _
      · exact keeps_pure _
    · split
      · exact keeps_pure _
      · exact keeps_pure _
      · exact keeps_pure _
    · exact (hreadAll _).bind fun _ => keeps_pure _
    · exact keeps_pure _

/-- **What resolving converters keeps, and reports and the reading of streams have no part in,
decoding keeps.** -/
theorem keeps_field (hconverter : ∀ d, Keeps p (dec.env.converterFor dec.budget d))
    (hread : ∀ s spent, p s → p { s with spent }) (f : Field) (raw : Value) :
    Keeps p (dec.field f raw) := by
  have habsent : ∀ c, Keeps p (absent f c) := by
    intro c
    unfold absent
    split
    · exact keeps_ofExcept _
    · split
      · exact keeps_pure _
      · split
        · exact keeps_pure _
        · exact keeps_throw _
  have hconvert : ∀ d c raw, Keeps p (convert f d c raw) := by
    intro d c raw
    unfold convert
    split
    · refine (keeps_ofExcept _).bind fun conversion => ?_
      split
      · exact keeps_pure _
      · exact keeps_throw _
    · exact keeps_throw _
  unfold field
  -- streams are adapted, and adapting changes what has been read and nothing else
  split
  · unfold streamed
    split
    · exact habsent _
    · exact keeps_adapt hread _ _ _
  · -- sequences ask for the converter of the item, unless the items are streams
    unfold sequence
    refine (keeps_ofExcept _).bind fun item => ?_
    have hitems : Keeps p (dec.itemValues f item raw.items) := by
      unfold itemValues
      split
      · exact Keeps.mapM fun v _ => keeps_adapt hread _ _ _
      · exact (hconverter _).bind fun _ => Keeps.mapM fun v _ => hconvert _ _ _
    refine hitems.bind fun values => ?_
    split
    · exact keeps_ofExcept _
    · exact keeps_pure _
    · exact keeps_ofExcept _
  · -- any other field asks for its own converter
    unfold scalar
    refine (hconverter _).bind fun _ => ?_
    split
    · exact habsent _
    · exact hconvert _ _ _

/-- Decoding keeps what asking for converters keeps, if it depends on neither the streams that have
been read nor the journal. -/
theorem keeps_decode (dec : Decoder)
    (hconverter : ∀ d, Keeps p (dec.env.converterFor dec.budget d))
    (hread : ∀ s spent, p s → p { s with spent })
    (hjournal : ∀ s journal, p s → p { s with journal })
    (a : TypeExpr) (raw : Table String Value) : Keeps p (dec.decode a raw) := by
  -- reporting a failure touches the journal alone
  have hfailed : ∀ d e, Keeps p (failed d e) := by
    intro d e
    unfold failed
    split
    · exact (keeps_modify fun s h => hjournal s _ h).bind fun _ =>
        keeps_modify fun s h => hjournal s _ h
    · exact keeps_pure _
  have htarget : Keeps p (dec.target a) := by
    unfold target described
    refine (keeps_ofExcept _).bind fun d => ?_
    split
    · exact (keeps_throw _).bind fun _ => keeps_pure _
    · exact keeps_pure _
  unfold decode
  split
  · exact keeps_pure _
  · refine htarget.bind fun d => ?_
    unfold decodeRecord
    refine Keeps.bind (Keeps.onError ?_ (hfailed d)) fun values => keeps_ofExcept _
    unfold fieldValues
    refine (keeps_ofExcept _).bind fun fields => ?_
    refine (Keeps.mapM fun f _ => ?_).bind fun _ => keeps_pure _
    exact (keeps_field hconverter hread f _).bind fun _ => keeps_pure _

end Decoder

/-! ## Histories -/

/-- A use of the shared converters. Builds and decodings are told everything but the declarations,
which all uses share. -/
inductive Use where
  | build (bp : Blueprint) (d : Descriptor)
  | decode (dec : Decoder) (a : TypeExpr) (raw : Table String Value)
  | resolve (d : Descriptor)
  | derive (budget : Nat) (d : Descriptor)
  | converterFor (budget : Nat) (d : Descriptor)

/-- The state that a use leaves behind, whether it succeeds or fails. -/
def Use.run (env : Environment) (s : State) : Use → State
  | .build bp d => (({ bp with env }.build d).run s).2
  | .decode dec a raw => (({ dec with env }.decode a raw).run s).2
  | .resolve d => ((Action.resolve env d).run s).2
  | .derive budget d => ((env.derive budget d).run s).2
  | .converterFor budget d => ((env.converterFor budget d).run s).2

variable {env : Environment} {known : Descriptor → Option Converter} {s : State} {d : Descriptor}

/-- Looking up a converter keeps what is remembered consistent. -/
theorem keeps_resolve (d : Descriptor) : Keeps (Consistent env known) (Action.resolve env d) := by
  intro s h
  refine wp_mono (h.wp_resolve d) (fun _ _ h' => h'.1) ?_
  rintro e s' ⟨rfl, -⟩
  exact h

theorem keeps_derive (budget : Nat) (d : Descriptor) :
    Keeps (Consistent env known) (env.derive budget d) := by
  unfold Environment.derive
  split
  · exact (keeps_throw _).bind fun _ => keeps_converterFor budget d
  · exact keeps_converterFor budget d

/-- **Every use of the converters leaves a consistent state consistent.** -/
theorem Consistent.use (h : Consistent env known s) (use : Use) :
    Consistent env known (use.run env s) := by
  cases use with
  | build bp d =>
    exact snd_of_wp (Blueprint.keeps_build { bp with env } keeps_resolve
      (fun _ _ _ _ _ h => h.of_eq rfl rfl) d s h)
  | decode dec a raw =>
    exact snd_of_wp (Decoder.keeps_decode { dec with env } (keeps_converterFor _)
      (fun _ _ h => h.of_eq rfl rfl) (fun _ _ h => h.of_eq rfl rfl) a raw s h)
  | resolve d => exact snd_of_wp (keeps_resolve d s h)
  | derive budget d => exact snd_of_wp (keeps_derive budget d s h)
  | converterFor budget d => exact snd_of_wp (keeps_converterFor budget d s h)

/-- Uses one after the other keep what is remembered consistent. -/
theorem Consistent.uses (h : Consistent env known s) (uses : List Use) :
    Consistent env known (uses.foldl (Use.run env) s) := by
  induction uses generalizing s with
  | nil => exact h
  | cons use uses ih => exact ih (h.use use)

/-! ## Answers -/

namespace Environment

/-- What asking for the converter of a type comes to, given enough depth of recursion. -/
def Answers (env : Environment) (s : State) (d : Descriptor) (answer : Except Error Converter) :
    Prop :=
  ∃ depth, ∀ budget ≥ depth, ((env.converterFor budget d).run s).1.map (·.converter) = answer

end Environment

variable {answer : Except Error Converter}

/-- Asked in a consistent state, the converter of a type is that of the relation, or the budget is
used up. -/
theorem Consistent.result_cases (h : Consistent env known s) (d : Descriptor) (budget : Nat) :
    ((env.converterFor budget d).run s).1 = .error .exhausted ∨
      Derives env known d (((env.converterFor budget d).run s).1.map (·.converter)) := by
  have hwp := wp_converterFor budget d s h
  cases hrun : (env.converterFor budget d).run s with
  | mk result s' =>
    cases result with
    | ok i => exact .inr (post_of_run hwp hrun).2
    | error e =>
      rcases (fail_of_run hwp hrun).2 with rfl | hfails
      · exact .inl rfl
      · exact .inr hfails

/-- What the relation says is the answer in every consistent state. -/
theorem Consistent.answers (h : Consistent env known s) (hanswer : Derives env known d answer) :
    env.Answers s d answer := by
  obtain ⟨depth, hdepth⟩ := hanswer.exists_depth
  refine ⟨depth, fun budget hbudget => ?_⟩
  have hwp := hdepth budget hbudget s h
  cases hrun : (env.converterFor budget d).run s with
  | mk result s' =>
    cases result with
    | ok i => exact (post_of_run hwp hrun).symm
    | error e => exact (fail_of_run hwp hrun).symm

/-- An answer other than that wrappers nest without end is what the relation says. -/
theorem Consistent.derives_of_answers (h : Consistent env known s)
    (hanswer : env.Answers s d answer) (hends : answer ≠ .error .exhausted) :
    Derives env known d answer := by
  obtain ⟨depth, hdepth⟩ := hanswer
  have hresult := hdepth depth (Nat.le_refl depth)
  rcases h.result_cases d depth with hexhausted | hderives
  · rw [hexhausted] at hresult
    exact absurd hresult.symm hends
  · rwa [hresult] at hderives

/-- What is given at one depth of recursion is the answer. -/
theorem Consistent.answers_of_run {budget : Nat} {i : Installed} (h : Consistent env known s)
    (hrun : ((env.converterFor budget d).run s).1 = .ok i) :
    env.Answers s d (.ok i.converter) := by
  rcases h.result_cases d budget with hexhausted | hderives
  · rw [hrun] at hexhausted
    cases hexhausted
  · rw [hrun] at hderives
    exact h.answers hderives

/-- Where the relation says nothing, wrappers nest without end. -/
theorem Consistent.exhausted (h : Consistent env known s) (hnone : ∀ x, ¬ Derives env known d x)
    (budget : Nat) : ((env.converterFor budget d).run s).1 = .error .exhausted :=
  (h.result_cases d budget).resolve_right (hnone _)

namespace Environment

/-- The constructor of a wrapper fails on the default of the converter that it is put behind, and
not as on an unfit text. -/
def RefusesDefault (env : Environment) (s : State) (e : Error) : Prop :=
  ∃ wrapper inner c v, env.kind wrapper = .wrapper ∧ env.unwrap wrapper = .ok inner ∧
    env.Answers s inner (.ok c) ∧ c.default = some v ∧
    env.wrap wrapper.nonNull v = .error e ∧ e.isUnfitText = false

open ApiShape.Sample

namespace Sample

/-- Shades are paints, which wrap a colour; locks wrap a key, which nothing handles; doors have a
paint and a lock; and counts wrap a number that is at least one. -/
def shop : Environment := ⟨[
  color,
  wrapperClass "Paint" (.union [classExpr "Color", .null]) [],
  { ref := classNamed "Shade", shape := .newtype (classExpr "Paint") },
  { ref := classNamed "Key", shape := .plain },
  wrapperClass "Lock" (classExpr "Key") [],
  dataclass "Door" [{ name := "paint", type := classExpr "Paint" },
    { name := "lock", type := classExpr "Lock" }],
  wrapperClass "Count" number [⟨"value", .atLeast (.ofInt 1), .type, "no items"⟩]]⟩

/-- Decoding a door fails at the lock after its paint has been derived. -/
def history : List Use :=
  [.build { env := shop } (classType "Color"),
    .decode { env := shop } (classExpr "Door") (Table.ofList [("paint", .text "RED")]),
    .converterFor 1 (classType "Shade"), .derive 9 (classType "Shade"),
    .derive 9 (classType "Lock"), .resolve (classType "Key")]

end Sample

open Environment.Sample

end Environment

end ApiShape
