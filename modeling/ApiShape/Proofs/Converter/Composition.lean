import ApiShape.Proofs.Converter.Agreement
import ApiShape.Proofs.Converter.Refusals

/-!
# The converter of a chain of wrappers

The converter of a wrapper is made from the one below it, one level at a time, and taken from the
memo where a level has been made before. What comes out at the top is told here by the chain alone.

* `Wrapping` — the wrappers that unwrapping a type leads through.
* `Environment.wrapAll` — their constructors, one after the other.
* `Environment.composed` — the converter at the end of the chain with all of them put behind it.
* **`Wrapping.wp_converterFor`** — the converter of the outermost wrapper is the composed one.
* **`Environment.converterFor_composed`** — so it is along any history that does not register the
  innermost type too late, and its conversions are those of the composition.
* `Environment.parser_error_raised` — an error of the innermost parser that does not speak of the
  text is raised through all the wrappers.
-/

namespace ApiShape

open ApiShape.Action

variable {env : Environment} {d leaf : Descriptor} {ws : List Descriptor}

/-! ## Chains -/

/-- Unwrapping the type leads through the wrappers of the list, the outermost first, and ends at the
last type, which is none. Nullability is left out. -/
inductive Wrapping (env : Environment) : Descriptor → List Descriptor → Descriptor → Prop
  | leaf {d : Descriptor} (hkind : env.kind d ≠ .wrapper) : Wrapping env d [] d.nonNull
  | outer {d inner leaf : Descriptor} {ws : List Descriptor} (hkind : env.kind d = .wrapper)
      (h : env.unwrap d = .ok inner) (hrest : Wrapping env inner ws leaf) :
      Wrapping env d (d.nonNull :: ws) leaf

theorem wrapping_nonNull : Wrapping env d.nonNull ws leaf ↔ Wrapping env d ws leaf := by
  constructor <;> intro h
  · cases h with
    | leaf hkind => exact .leaf (d := d) hkind
    | outer hkind h hrest => exact .outer (d := d) hkind h hrest
  · cases h with
    | leaf hkind => exact .leaf (d := d.nonNull) hkind
    | outer hkind h hrest => exact .outer (d := d.nonNull) hkind h hrest

/-- Below all the wrappers stands the innermost type. -/
theorem Wrapping.innermost (h : Wrapping env d ws leaf) : Innermost env d leaf := by
  induction h with
  | @leaf d hkind => exact ⟨.refl d, hkind⟩
  | outer hkind h _ ih => exact ⟨.step hkind h ih.1, ih.2⟩

/-! ## Composition -/

namespace Environment

/-- What the constructors of a chain of wrappers make of a value. -/
def wrapAll (env : Environment) (ws : List Descriptor) (v : Value) : Except Error Value :=
  ws.foldrM env.wrap v

/-- The converter with the constructors of a chain of wrappers put behind it. -/
def composed (env : Environment) (ws : List Descriptor) (c : Converter) : Converter :=
  { c with
    target := ws.head?.getD c.target
    parse := fun raw => c.parse raw >>= env.wrapAll ws
    default := c.default.bind fun v => (env.wrapAll ws v).toOption }

/-- The outermost constructor is called last. -/
theorem wrapAll_cons (w : Descriptor) (ws : List Descriptor) (v : Value) :
    env.wrapAll (w :: ws) v = env.wrapAll ws v >>= env.wrap w := List.foldrM_cons

theorem composed_nil (c : Converter) : env.composed [] c = c := by
  have hparse : (fun raw => c.parse raw >>= env.wrapAll []) = c.parse := by
    funext raw
    exact bind_pure (c.parse raw)
  have hdefault : (c.default.bind fun v => (env.wrapAll [] v).toOption) = c.default :=
    Option.bind_fun_some c.default
  rw [composed, hparse, hdefault]
  rfl

/-- **One more constructor put behind the composed converter composes it.** -/
theorem composed_cons {c c' : Converter} {w : Descriptor}
    (h : (env.composed ws c).map (env.wrap w) w = .ok c') : c' = env.composed (w :: ws) c := by
  have hparse : ∀ raw, (c.parse raw >>= env.wrapAll ws) >>= env.wrap w =
      c.parse raw >>= env.wrapAll (w :: ws) := by
    intro raw
    rw [bind_assoc]
    exact congrArg _ (funext fun v => (wrapAll_cons w ws v).symm)
  have hdefault : ∀ v, ((env.wrapAll ws v).toOption.bind fun u => (env.wrap w u).toOption) =
      (env.wrapAll (w :: ws) v).toOption := by
    intro v
    rw [wrapAll_cons]
    cases env.wrapAll ws v with
    | ok u => rfl
    | error e => rfl
  rw [eq_of_map h]
  simp only [composed, hparse, Option.bind_assoc, hdefault]
  rfl

end Environment

/-- The value is one that the converter parses, or its default. -/
def Converter.Gives (c : Converter) (v : Value) : Prop :=
  (∃ raw, c.parse raw = .ok v) ∨ c.default = some v

variable {known : Descriptor → Option Converter} {c : Converter} {s : State}

/-- Converters on the way to `leaf` are composed from the one of `leaf`. -/
def IsComposed (env : Environment) (leaf w : Descriptor) (inner c : Converter) : Prop :=
  ∀ ws, Wrapping env w ws leaf → c = env.composed ws inner

/-- Being composed of the constructors on the way is closed under derivation. -/
theorem closed_isComposed (hleaf : Innermost env d leaf) (known : Descriptor → Option Converter) :
    Closed env known (OnTheWay env known d leaf (IsComposed env leaf)) where
  known {e c} hkind hknown hway := by
    obtain rfl := hleaf.unique ⟨hway, hkind⟩
    refine ⟨c, hknown, fun ws hws => ?_⟩
    cases hws with
    | leaf => exact (env.composed_nil c).symm
    | outer hwrapper => exact absurd hwrapper hkind
  mapped {w inner c c'} hkind hunwrap hinner hmap hway := by
    obtain ⟨c₀, hknown, hcomposed⟩ := hinner (hway.unwrap hkind hunwrap)
    refine ⟨c₀, hknown, fun ws hws => ?_⟩
    cases hws with
    | leaf hne => exact absurd hkind hne
    | outer _ hunwrap' hrest =>
      obtain rfl := Except.ok.inj (hunwrap.symm.trans hunwrap')
      rw [hcomposed _ (wrapping_nonNull.2 hrest)] at hmap
      exact Environment.composed_cons hmap

/-- **The converter of a chain of wrappers is the composed one**, and it is given as soon as the
budget is larger than the chain, if no constructor refuses a value but as unfit. Induction on the
chain; a level that the memo answers is right by what is kept of it. -/
theorem Wrapping.wp_converterFor {root : Descriptor} (h : Wrapping env d ws leaf)
    (hkept : Kept env known (OnTheWay env known root leaf (IsComposed env leaf)) s)
    (hknown : known leaf = some c)
    (hrefuse : ∀ v e, c.Gives v → env.wrapAll ws v = .error e → e.isUnfitText = true)
    (hway : Unwraps env root d.nonNull) {budget : Nat} (hbudget : ws.length < budget) :
    wp (env.converterFor budget d) (fun i _ => i.converter = env.composed ws c)
      (fun _ _ => False) s := by
  induction h generalizing budget with
  | @leaf d hkind =>
    obtain ⟨n, rfl⟩ := Nat.exists_eq_add_of_lt hbudget
    refine wp_converterFor_succ ?_ ?_ ?_ ?_
    · -- the innermost type has its own converter
      intro _
      rw [env.composed_nil]
      refine wp_resolve_of_known ?_
      rw [hkept.registry d.nonNull hkind]
      exact hknown
    · exact fun hwrapper => absurd hwrapper hkind
    · exact fun hwrapper => absurd hwrapper hkind
    · exact fun hwrapper => absurd hwrapper hkind
  | @outer d inner leaf ws hkind hunwrap hrest ih =>
    obtain ⟨n, rfl⟩ := Nat.exists_eq_add_of_lt hbudget
    refine wp_converterFor_succ ?_ ?_ ?_ ?_
    · exact fun hne => absurd hkind hne
    · -- what is remembered has been composed of the constructors on the way
      intro _ i hmemo
      obtain ⟨c', hknown', hcomposed⟩ := (hkept.derived _ i hmemo).2 hway
      obtain rfl := Option.some.inj (hknown'.symm.trans hknown)
      exact hcomposed _ (wrapping_nonNull.2 (.outer hkind hunwrap hrest))
    · intro _ e herror
      cases hunwrap.symm.trans herror
    · -- otherwise the converter below is composed by induction, and one more constructor is added
      intro _ _ inner' hunwrap'
      obtain rfl := Except.ok.inj (hunwrap.symm.trans hunwrap')
      -- a value that is refused further in is refused by the whole chain
      have hrefuse' : ∀ v e, c.Gives v → env.wrapAll ws v = .error e → e.isUnfitText = true := by
        intro v e hv hfails
        refine hrefuse v e hv ?_
        rw [env.wrapAll_cons, hfails]
        rfl
      have hlength : ws.length < (d.nonNull :: ws).length + n := by
        rw [List.length_cons]
        omega
      refine wp_mono (ih hkept hknown hrefuse' (hway.unwrap hkind hunwrap) hlength) ?_
        fun _ _ hfalse => hfalse
      intro below s' hbelow
      cases hmap : below.converter.map (env.wrap d.nonNull) d.nonNull with
      | ok c' =>
        rw [hbelow] at hmap
        exact fun _ => Environment.composed_cons hmap
      | error e =>
        obtain ⟨v, hdefault, hwrap, hfit⟩ := error_of_map hmap
        rw [hbelow] at hdefault
        obtain ⟨u, hu, hv⟩ := Option.bind_eq_some_iff.1 hdefault
        -- the default that is refused is the composed one of a default of `c`
        have hfails : env.wrapAll (d.nonNull :: ws) u = .error e := by
          rw [env.wrapAll_cons, toOption_eq_some_iff.1 hv]
          exact hwrap
        have hunfit := hrefuse u e (.inr hu) hfails
        rw [hfit] at hunfit
        cases hunfit

/-! ## Conversions -/

/-- What converting a text with the converter of a chain of wrappers comes to, told by the converter
at the end of the chain and the constructors. -/
inductive Outcome (env : Environment) (ws : List Descriptor) (c : Converter) (raw : String) :
    (nullable : Bool) → Except Error Conversion → Prop
  | value {nullable : Bool} {v : Value} (h : (c.parse raw >>= env.wrapAll ws) = .ok v) :
      Outcome env ws c raw nullable (.ok (.value v))
  | strict {nullable : Bool} {e : Error} (h : (c.parse raw >>= env.wrapAll ws) = .error e)
      (hfit : c.parse raw = .error e → e.isUnfitText = true) (hstrict : c.strict = true) :
      Outcome env ws c raw nullable (.ok (.failure e))
  | null {e : Error} (h : (c.parse raw >>= env.wrapAll ws) = .error e)
      (hfit : c.parse raw = .error e → e.isUnfitText = true) (hstrict : c.strict = false) :
      Outcome env ws c raw true (.ok (.value .null))
  | default {e : Error} {u v : Value} (h : (c.parse raw >>= env.wrapAll ws) = .error e)
      (hfit : c.parse raw = .error e → e.isUnfitText = true) (hstrict : c.strict = false)
      (hlenient : c.lenient = true) (hdefault : c.default = some u)
      (hwrap : env.wrapAll ws u = .ok v) :
      Outcome env ws c raw false (.ok (.value v))
  | failure {e : Error} (h : (c.parse raw >>= env.wrapAll ws) = .error e)
      (hfit : c.parse raw = .error e → e.isUnfitText = true) (hstrict : c.strict = false)
      (hnone : c.lenient = true → ∀ u v, c.default = some u → env.wrapAll ws u ≠ .ok v) :
      Outcome env ws c raw false (.ok (.failure e))
  | raised {nullable : Bool} {e : Error} (h : c.parse raw = .error e)
      (hfit : e.isUnfitText = false) : Outcome env ws c raw nullable (.error e)

namespace Environment

/-- The composed converter has the default that all constructors accept. -/
theorem composed_default {u v : Value} (hdefault : c.default = some u)
    (hwrap : env.wrapAll ws u = .ok v) : (env.composed ws c).default = some v := by
  show c.default.bind _ = some v
  rw [hdefault, Option.bind_some, hwrap]
  rfl

/-- A default is one of the composed converter exactly if every constructor accepts it in turn. -/
theorem composed_default_eq_some_iff {v : Value} :
    (env.composed ws c).default = some v ↔ ∃ u, c.default = some u ∧ env.wrapAll ws u = .ok v := by
  constructor
  · intro h
    obtain ⟨u, hdefault, hwrap⟩ := Option.bind_eq_some_iff.1 h
    exact ⟨u, hdefault, toOption_eq_some_iff.1 hwrap⟩
  · rintro ⟨u, hdefault, hwrap⟩
    exact composed_default hdefault hwrap

end Environment

variable {raw : String} {nullable : Bool}

/-- **The composed converter converts as told.** -/
theorem Outcome.convert_eq {result : Except Error Conversion}
    (hrefuse : ∀ v e, c.Gives v → env.wrapAll ws v = .error e → e.isUnfitText = true)
    (h : Outcome env ws c raw nullable result) :
    (env.composed ws c).convert raw nullable = result := by
  -- what the composition fails with is unfit wherever it comes from
  have hunfit : ∀ {e}, (c.parse raw >>= env.wrapAll ws) = .error e →
      (c.parse raw = .error e → e.isUnfitText = true) → e.isUnfitText = true := by
    intro e h hfit
    rcases bind_eq_error_iff.1 h with hparse | ⟨v, hparse, hwrap⟩
    · exact hfit hparse
    · exact hrefuse v e (.inl ⟨raw, hparse⟩) hwrap
  cases h with
  | value h => exact Converter.convert_of_ok h nullable
  | strict h hfit hstrict =>
    rw [Converter.convert_of_unfit h (hunfit h hfit)]
    exact if_pos hstrict
  | null h hfit hstrict =>
    rw [Converter.convert_of_unfit h (hunfit h hfit)]
    have hstrict' : (env.composed ws c).strict = false := hstrict
    simp only [hstrict', Bool.false_eq_true, if_false, if_true]
  | default h hfit hstrict hlenient hdefault hwrap =>
    rw [Converter.convert_of_unfit h (hunfit h hfit)]
    have hstrict' : (env.composed ws c).strict = false := hstrict
    have hlenient' : (env.composed ws c).lenient = true := hlenient
    simp only [hstrict', hlenient', Environment.composed_default hdefault hwrap,
      Bool.false_eq_true, if_false]
  | failure h hfit hstrict hnone =>
    rw [Converter.convert_of_unfit h (hunfit h hfit)]
    have hstrict' : (env.composed ws c).strict = false := hstrict
    -- there is no default to fall back to
    simp only [hstrict', Bool.false_eq_true, if_false]
    split
    · next v hlenient hdefault =>
      obtain ⟨u, hu, hwrap⟩ := Environment.composed_default_eq_some_iff.1 hdefault
      exact absurd hwrap (hnone hlenient u v hu)
    · rfl
  | @raised _ e h hfit =>
    -- an error that does not speak of the text is raised by the innermost parser
    have hcomposed : (env.composed ws c).parse raw = .error e := by
      show (c.parse raw >>= env.wrapAll ws) = .error e
      rw [h]
      rfl
    simp only [Converter.convert, hcomposed, hfit, Bool.not_false, if_true]

/-- Every text has an outcome. -/
theorem exists_outcome (env : Environment) (ws : List Descriptor) (c : Converter) (raw : String)
    (nullable : Bool) : ∃ result, Outcome env ws c raw nullable result := by
  cases h : c.parse raw >>= env.wrapAll ws with
  | ok v => exact ⟨_, .value h⟩
  | error e =>
    by_cases hfit : c.parse raw = .error e → e.isUnfitText = true
    · cases hstrict : c.strict with
      | true => exact ⟨_, .strict h hfit hstrict⟩
      | false =>
        cases nullable with
        | true => exact ⟨_, .null h hfit hstrict⟩
        | false =>
          by_cases hdefault :
              c.lenient = true ∧ ∃ u v, c.default = some u ∧ env.wrapAll ws u = .ok v
          · obtain ⟨hlenient, u, v, hu, hwrap⟩ := hdefault
            exact ⟨_, .default h hfit hstrict hlenient hu hwrap⟩
          · refine ⟨_, .failure h hfit hstrict fun hlenient u v hu hwrap => ?_⟩
            exact hdefault ⟨hlenient, u, v, hu, hwrap⟩
    · obtain ⟨hparse, hfit⟩ := Classical.not_imp.1 hfit
      exact ⟨_, .raised hparse (Bool.eq_false_iff.2 hfit)⟩

/-- The composed converter comes to the outcome of a text and to nothing else. -/
theorem convert_composed_iff {result : Except Error Conversion}
    (hrefuse : ∀ v e, c.Gives v → env.wrapAll ws v = .error e → e.isUnfitText = true) :
    (env.composed ws c).convert raw nullable = result ↔ Outcome env ws c raw nullable result := by
  refine ⟨fun h => ?_, Outcome.convert_eq hrefuse⟩
  obtain ⟨result', h'⟩ := exists_outcome env ws c raw nullable
  rwa [← h, h'.convert_eq hrefuse]

namespace Environment

/-- **Converters compose through any depth of wrappers.** After any history of uses and
registrations that does not register the innermost type once a wrapper on the way to it has been
derived: the converter of a chain of wrappers is given as soon as the budget is larger than the
chain, if no constructor refuses the values that reach it but as unfit. It parses with the innermost
converter and all the constructors, has the schema and the flags of the innermost one, and a default
exactly if all constructors in turn accept the innermost one's. Each text is converted as `Outcome`
says, and not otherwise. -/
theorem converterFor_composed (env : Environment) (s : State) (hnew : s.derived = ∅)
    (steps : List Step) (d leaf : Descriptor) (ws : List Descriptor) (c : Converter)
    (hchain : Wrapping env d ws leaf) (htime : InTime env d leaf s steps)
    (hrefuse : ∀ v e, c.Gives v → env.wrapAll ws v = .error e → e.isUnfitText = true) :
    let after := steps.foldl (Step.run env) s
    after.registry.converterOf? env leaf = some c →
    ∀ budget > ws.length, ∃ i, ((env.converterFor budget d).run after).1 = .ok i ∧
      (∀ raw, i.converter.parse raw = c.parse raw >>= env.wrapAll ws) ∧
      i.converter.schema = c.schema ∧ i.converter.lenient = c.lenient ∧
      i.converter.strict = c.strict ∧
      (∀ v, i.converter.default = some v ↔
        ∃ u, c.default = some u ∧ env.wrapAll ws u = .ok v) ∧
      ∀ raw nullable result,
        i.converter.convert raw nullable = result ↔ Outcome env ws c raw nullable result := by
  intro after hregistry budget hbudget
  have hleaf := hchain.innermost
  obtain ⟨known, hkept⟩ := (kept_of_derived_eq_empty env
    (OnTheWay env (s.registry.converterOf? env) d leaf (IsComposed env leaf)) hnew).onTheWay_run
    hleaf (closed_isComposed hleaf) steps htime
  have hknown : known leaf = some c := by rw [← hkept.registry leaf hleaf.2, hregistry]
  have hwp := hchain.wp_converterFor hkept hknown hrefuse (.refl d) hbudget
  cases hrun : (env.converterFor budget d).run after with
  | mk result s' =>
    -- a composed converter is given, so asking does not fail
    cases result with
    | error e => exact (fail_of_run hwp hrun).elim
    | ok i =>
      have hi := post_of_run hwp hrun
      refine ⟨i, rfl, ?_⟩
      rw [hi]
      exact ⟨fun _ => rfl, rfl, rfl, rfl, fun _ => composed_default_eq_some_iff,
        fun _ _ _ => convert_composed_iff hrefuse⟩

open ApiShape.Sample

namespace Sample

/-- Badges carry a tag, which is a code of at most three characters. -/
def badges : Environment := ⟨[
  { ref := classNamed "Code", shape := .plain },
  wrapperClass "Tag" (classExpr "Code") [⟨"value", .shorterThan 3, .value, "too long"⟩],
  wrapperClass "Badge" (.union [classExpr "Tag", .null]) []]⟩

/-- Codes are read as told from now on. Their default is too long for a tag. -/
def registerCode (parse : String → Except Error Value) : Step :=
  .register (classType "Code") parse (some (.text "none")) .string true false

def tagOf (text : String) : Value :=
  instanceOf "Tag" [("value", .text text)]

def badgeOf (text : String) : Value :=
  instanceOf "Badge" [("value", tagOf text)]

def tooLong : Error := .fault (.raised .value "too long")

theorem wrapping_badge :
    Wrapping badges (classType "Badge") [classType "Badge", classType "Tag"] (classType "Code") :=
  .outer rfl rfl (.outer rfl rfl (.leaf (d := classType "Code") (by decide)))

/-- Badges refuse texts of more than three characters. -/
theorem wrapAll_badge (text : String) :
    badges.wrapAll [classType "Badge", classType "Tag"] (.text text) =
      if 3 < text.length then .error tooLong else .ok (badgeOf text) := by
  have htag : badges.wrap (classType "Tag") (.text text) =
      ((if decide ((3 : Int) < text.length) then .error tooLong else .ok ()) >>=
        fun _ => .ok [("value", .text text)]) >>= fun made => .ok (instanceOf "Tag" made) := rfl
  show badges.wrap (classType "Tag") (.text text) >>= badges.wrap (classType "Badge") = _
  rw [htag]
  by_cases hlength : 3 < text.length
  · rw [if_pos hlength, decide_eq_true (by omega), if_pos rfl]
    rfl
  · rw [if_neg hlength, decide_eq_false (by omega), if_neg (by decide)]
    rfl

/-- The constructors of badges and tags refuse texts as unfit alone. -/
theorem isUnfitText_of_wrapAll_badge {text : String} {e : Error}
    (h : badges.wrapAll [classType "Badge", classType "Tag"] (.text text) = .error e) :
    e.isUnfitText = true := by
  rw [wrapAll_badge] at h
  split at h
  · cases h
    rfl
  · cases h

end Sample

open Environment.Sample

/-- Badges could not be derived before codes were registered. Afterwards they are made through their
tags and have no default, as that of codes is too long. -/
theorem converterFor_composed_badge :
    let after := [.use (.derive 9 (classType "Badge")), registerCode fun raw => .ok (.text raw),
      .use (.derive 9 (classType "Tag"))].foldl (Step.run badges) fresh
    ∃ i, ((badges.converterFor 9 (classType "Badge")).run after).1 = .ok i ∧
      i.converter.default = none ∧
      i.converter.convert "new" false = .ok (.value (badgeOf "new")) ∧
      i.converter.convert "late" true = .ok (.value .null) ∧
      i.converter.convert "late" false = .ok (.failure tooLong) := by
  intro after
  let c : Converter :=
    { target := classType "Code", parse := fun raw => .ok (.text raw)
      default := some (.text "none"), lenient := true }
  have hrefuse : ∀ v e, c.Gives v →
      badges.wrapAll [classType "Badge", classType "Tag"] v = .error e → e.isUnfitText = true := by
    rintro v e (⟨raw, hparse⟩ | hdefault) hfails
    · cases hparse
      exact isUnfitText_of_wrapAll_badge hfails
    · cases hdefault
      exact isUnfitText_of_wrapAll_badge hfails
  obtain ⟨i, hi, -, -, -, -, hdefault, hconvert⟩ := converterFor_composed badges fresh rfl
    [.use (.derive 9 (classType "Badge")), registerCode fun raw => .ok (.text raw),
      .use (.derive 9 (classType "Tag"))]
    (classType "Badge") (classType "Code") [classType "Badge", classType "Tag"] c wrapping_badge
    ⟨trivial, fun _ _ _ _ => rfl, trivial, trivial⟩ hrefuse rfl 9 (by decide)
  have hlate : (c.parse "late" >>= badges.wrapAll [classType "Badge", classType "Tag"]) =
      .error tooLong := wrapAll_badge "late"
  have hnone : ∀ u v, c.default = some u →
      badges.wrapAll [classType "Badge", classType "Tag"] u ≠ .ok v := by
    rintro u v ⟨⟩ hwrap
    cases (wrapAll_badge "none").symm.trans hwrap
  refine ⟨i, hi, ?_, ?_, ?_, ?_⟩
  · refine Option.eq_none_iff_forall_not_mem.2 fun v hv => ?_
    obtain ⟨u, hu, hwrap⟩ := (hdefault v).1 hv
    exact hnone u v hu hwrap
  · exact (hconvert _ _ _).2 (.value (wrapAll_badge "new"))
  · exact (hconvert _ _ _).2 (.null hlate (by rintro ⟨⟩) rfl)
  · exact (hconvert _ _ _).2 (.failure hlate (by rintro ⟨⟩) rfl fun _ => hnone)

/-- **An error of the parser that does not speak of the text is raised.** Codes are looked up, and
the lookup fails with an error about a key. The constructors of badges and tags raise nothing but
refusals, but converting a text to a badge or null neither gives a badge nor null. -/
theorem parser_error_raised :
    let after := [registerCode fun _ => .error (.fault (.raised .key "no such code"))].foldl
      (Step.run badges) fresh
    ∃ c i, Wrapping badges (classType "Badge") [classType "Badge", classType "Tag"]
        (classType "Code") ∧
      after.registry.converterOf? badges (classType "Code") = some c ∧
      (∀ v e, c.Gives v → badges.wrapAll [classType "Badge", classType "Tag"] v = .error e →
        e.isUnfitText = true) ∧
      ((badges.converterFor 9 (classType "Badge")).run after).1 = .ok i ∧
      i.converter.strict = false ∧
      i.converter.convert "new" true = .error (.fault (.raised .key "no such code")) := by
  refine ⟨_, _, wrapping_badge, rfl, ?_, rfl, rfl, rfl⟩
  rintro v e (⟨raw, ⟨⟩⟩ | hdefault) hfails
  cases hdefault
  exact isUnfitText_of_wrapAll_badge hfails

end Environment

end ApiShape
