import ApiShape.Api.Basic
import ApiShape.Proofs.Converter.Derivation
import Mathlib.Data.List.Forall2

/-!
# Leniency, in two runs side by side

A lenient converter gives its default for an unfit text where a strict one gives a failure. Nothing
else depends on leniency, which converters of wrappers take over from the converter that they are
derived from.

* `Converter.Laxer` — one converter is the other but for leniency, of which it has no less. Both
  convert a text alike, or the strict one refuses it (`Converter.Laxer.convert`).
* **`State.Laxer`** — the same for all converters of two states, those in the memo included.
* **`Relaxes`** — what two actions do from such states: the strict one fails with an error of the
  client, or both end alike, in such states again. There is one rule for each way to build an
  action, so a simulation reads like the action itself.
* **`relaxes_converterFor`** — asking for a converter is such an action, through any depth of
  wrappers.
* `Api.laxer_started` — programs that differ in leniency alone and make the same registrations start
  in such states.
-/

namespace ApiShape

open ApiShape.Action ApiShape.Time

/-! ## Converters -/

namespace Converter

/-- The converters are the same but for leniency, of which `lax` has no less than `strict`. -/
structure Laxer (lax strict : Converter) : Prop where
  same : lax = { strict with lenient := lax.lenient }
  lenient : strict.lenient = true → lax.lenient = true

namespace Laxer

variable {lax strict : Converter}

theorem refl (c : Converter) : Laxer c c := ⟨rfl, id⟩

theorem parse (h : Laxer lax strict) : lax.parse = strict.parse := by rw [h.same]

theorem default (h : Laxer lax strict) : lax.default = strict.default := by rw [h.same]

theorem strict_eq (h : Laxer lax strict) : lax.strict = strict.strict := by rw [h.same]

/-- **A text is converted alike, or the strict converter refuses it.** -/
theorem convert (h : Laxer lax strict) (text : String) (nullable : Bool) :
    lax.convert text nullable = strict.convert text nullable ∨
      ∃ v reason, lax.convert text nullable = .ok (.value v) ∧
        strict.convert text nullable = .ok (.failure reason) := by
  unfold Converter.convert
  rw [h.parse, h.strict_eq, h.default]
  cases strict.parse text with
  | ok v => exact .inl rfl
  | error e =>
    dsimp only
    -- only an unfit text, where neither strictness nor null decides, is a matter of leniency
    by_cases hdecided : e.isUnfitText = false ∨ strict.strict = true ∨ nullable = true
    · rcases hdecided with hfit | hstrict | hnull
      · simp only [hfit, Bool.not_false, if_true, true_or]
      · simp only [hstrict, if_true, true_or]
      · simp only [hnull, if_true, true_or]
    · obtain ⟨hfit, hstrict, hnull⟩ : e.isUnfitText = true ∧ strict.strict = false ∧
          nullable = false := by simpa using hdecided
      simp only [hfit, hstrict, hnull, Bool.not_true, Bool.false_eq_true, if_false]
      have hmore := h.lenient
      cases hleniency : strict.lenient with
      | true =>
        rw [hmore hleniency]
        exact .inl rfl
      | false =>
        cases lax.lenient with
        | false => exact .inl rfl
        | true =>
          cases strict.default with
          | none => exact .inl rfl
          | some v => exact .inr ⟨v, e, rfl, rfl⟩

end Laxer

end Converter

/-- **What is built on converters that differ in leniency differs in leniency.** Whether the default
is built on as well does not depend on leniency. -/
theorem Converter.Laxer.map {lax strict : Converter} (h : Laxer lax strict)
    (build : Value → Except Error Value) (target : Descriptor) :
    Alike Laxer (lax.map build target) (strict.map build target) := by
  -- only the default is looked at before conversion, and both have the same one
  have hmapped : ∀ default, Laxer
      { lax with target, parse := fun raw => lax.parse raw >>= build, default }
      { strict with target, parse := fun raw => strict.parse raw >>= build, default } := by
    intro default
    refine ⟨?_, h.lenient⟩
    rw [h.same]
  unfold Converter.map
  rw [h.default]
  cases strict.default with
  | none => exact .ok (hmapped none)
  | some d =>
    dsimp only
    cases build d with
    | ok v => exact .ok (hmapped (some v))
    | error e =>
      dsimp only
      split
      · exact .ok (hmapped none)
      · exact .error e

def Installed.Laxer (lax strict : Installed) : Prop := lax.converter.Laxer strict.converter

/-! ## Registries -/

/-- The registries have the same converters but for leniency, of which `lax` has no less. -/
structure Registry.Laxer (lax strict : Registry) : Prop where
  lenient : strict.lenient = true → lax.lenient = true
  entries : ∀ d, Option.Rel Installed.Laxer (lax.entries.get? d) (strict.entries.get? d)

namespace Registry.Laxer

variable {lax strict : Registry}

/-- Registries stay as they are to each other when such converters are registered for one type. -/
theorem add (h : lax.Laxer strict) (d : Descriptor) {i j : Installed} (hij : i.Laxer j) :
    (lax.add d i).Laxer (strict.add d j) where
  lenient := h.lenient
  entries d' := by
    simp only [Registry.add, Table.get?_set]
    split
    · exact .some hij
    · exact h.entries d'

/-- Installing such converters gives such registries and such installed converters. -/
theorem install (h : lax.Laxer strict) (d : Descriptor) {c c' : Converter} (hc : c.Laxer c') :
    (lax.install d c).1.Laxer (strict.install d c').1 ∧
      (lax.install d c).2.Laxer (strict.install d c').2 := by
  have hissued : ({ lax with issued := lax.issued + 1 } : Registry).Laxer
      { strict with issued := strict.issued + 1 } := ⟨h.lenient, h.entries⟩
  have hinstalled : (lax.install d c).2.Laxer (strict.install d c').2 := hc
  exact ⟨hissued.add d hinstalled, hinstalled⟩

/-- A type that one registry knows is known to the other, and a converter that is made for an
enumeration is the same. -/
theorem resolve (h : lax.Laxer strict) (env : Environment) (d : Descriptor) :
    Alike (fun x y => x.1.Laxer y.1 ∧ x.2.Laxer y.2)
      (lax.resolve env d) (strict.resolve env d) := by
  have hentry := h.entries d.nonNull
  cases hlax : lax.entries.get? d.nonNull with
  -- entries are of one shape in both registries
  | some i =>
    rw [hlax] at hentry
    cases hstrict : strict.entries.get? d.nonNull with
    | none => rw [hstrict] at hentry; cases hentry
    | some j =>
      rw [hstrict] at hentry
      cases hentry with
      | some hij =>
        rw [resolve_of_entry hlax, resolve_of_entry hstrict]
        exact .ok ⟨h, hij⟩
  | none =>
    rw [hlax] at hentry
    cases hstrict : strict.entries.get? d.nonNull with
    | some j => rw [hstrict] at hentry; cases hentry
    -- enumerations are resolved alike, with no regard to leniency
    | none =>
      cases henum : env.enumeration? d.origin with
      | none =>
        rw [resolve_of_none hlax henum, resolve_of_none hstrict henum]
        exact .error _
      | some found =>
        rw [resolve_of_enumeration hlax henum, resolve_of_enumeration hstrict henum]
        exact .ok (h.install _ (.refl _))

end Registry.Laxer

/-! ## States -/

/-- The states hold the same converters but for leniency, and the same streams have been read. -/
structure State.Laxer (lax strict : State) : Prop where
  registry : lax.registry.Laxer strict.registry
  derived : ∀ d, Option.Rel Installed.Laxer (lax.derived.get? d) (strict.derived.get? d)
  spent : lax.spent = strict.spent

namespace State.Laxer

variable {lax strict : State}

theorem withRegistry (h : lax.Laxer strict) {r r' : Registry} (hr : r.Laxer r') :
    Laxer { lax with registry := r } { strict with registry := r' } := ⟨hr, h.derived, h.spent⟩

/-- A derived converter is kept in both memos. -/
theorem keep (h : lax.Laxer strict) {r r' : Registry} (hr : r.Laxer r') (d : Descriptor)
    {i j : Installed} (hij : i.Laxer j) :
    Laxer { lax with registry := r, derived := lax.derived.set d i }
      { strict with registry := r', derived := strict.derived.set d j } where
  registry := hr
  derived d' := by
    simp only [Table.get?_set]
    split
    · exact .some hij
    · exact h.derived d'
  spent := h.spent

/-- Journals are kept apart. -/
theorem withJournals (h : lax.Laxer strict) (journal journal' : Journal) :
    Laxer { lax with journal } { strict with journal := journal' } :=
  ⟨h.registry, h.derived, h.spent⟩

/-- Both states have read the same bytes of every stream. -/
theorem current (h : lax.Laxer strict) (stream : Stream) :
    lax.current stream = strict.current stream := by
  rw [State.current, State.current, h.spent]

/-- Reading the same streams keeps the states as they are to each other. -/
theorem read (h : lax.Laxer strict) (handles : List Nat) :
    Laxer { lax with spent := handles ++ lax.spent }
      { strict with spent := handles ++ strict.spent } :=
  ⟨h.registry, h.derived, congrArg (handles ++ ·) h.spent⟩

end State.Laxer

/-! ## Two actions side by side -/

/-- Run from states that differ in leniency, `strict` fails with an error of the client, or both end
alike: with related results in such states again, or with one error. -/
def Relaxes {α β : Type} (R : α → β → Prop) (lax : Action α) (strict : Action β) : Prop :=
  ∀ s t : State, s.Laxer t →
    wp strict (fun y t' => wp lax (fun x s' => R x y ∧ s'.Laxer t') (fun _ _ => False) s)
      (fun e _ => e.isClient = true ∨ wp lax (fun _ _ => False) (fun e' _ => e' = e) s) t

section Rules

variable {α β γ δ : Type} {R : α → β → Prop} {S : γ → δ → Prop}

theorem relaxes_pure {x : α} {y : β} (h : R x y) : Relaxes R (pure x) (pure y) :=
  fun _ _ hst => ⟨h, hst⟩

theorem relaxes_throw (e : Error) : Relaxes R (throw e) (throw e) := fun _ _ _ => .inr rfl

theorem relaxes_refuse {e : Error} (h : e.isClient = true) (lax : Action α) :
    Relaxes R lax (throw e : Action β) := fun _ _ _ => .inl h

/-- Results that are alike need no state. -/
theorem relaxes_ofExcept {x : Except Error α} {y : Except Error β} (h : Alike R x y) :
    Relaxes R (Action.ofExcept x) (Action.ofExcept y) := by
  cases h with
  | ok h => exact relaxes_pure h
  | error e => exact relaxes_throw e

/-- In sequence, the strict action may refuse at the first or at the second step. -/
theorem Relaxes.bind {lax : Action α} {strict : Action β} {f : α → Action γ} {g : β → Action δ}
    (h : Relaxes R lax strict) (hnext : ∀ x y, R x y → Relaxes S (f x) (g y)) :
    Relaxes S (lax >>= f) (strict >>= g) := by
  intro s t hst
  rw [wp_bind]
  refine wp_mono (h s t hst) ?_ ?_
  · intro y t' hlax
    obtain ⟨x, s', hrun, hxy, hst'⟩ := exists_run_ok hlax
    refine wp_mono (hnext x y hxy s' t' hst') ?_ ?_
    · intro z t₂ h₂
      rw [wp_bind]
      exact wp_of_run_ok hrun h₂
    · intro e t₂ h₂
      rw [wp_bind]
      exact h₂.imp id (wp_of_run_ok hrun)
  · intro e t' hfails
    rw [wp_bind]
    exact hfails.imp id fun hlax => wp_mono hlax (fun _ _ h => h.elim) fun _ _ h => h

/-- What both do after reading the state may depend on how far the states agree. -/
theorem relaxes_get {f g : State → Action α} {R : α → α → Prop}
    (h : ∀ s t, s.Laxer t → Relaxes R (f s) (g t)) : Relaxes R (get >>= f) (get >>= g) := by
  intro s t hst
  have hnext := h s t hst s t hst
  rw [wp_bind, wp_get]
  simpa only [wp_bind, wp_get] using hnext

/-- A change of state relaxes itself if it keeps the states as they are to each other. -/
theorem relaxes_modify {f g : State → State} (h : ∀ s t, s.Laxer t → (f s).Laxer (g t)) :
    Relaxes (· = ·) (modify f) (modify g) := fun s t hst => ⟨rfl, h s t hst⟩

/-- Items that relax one another one by one do so in order. -/
theorem relaxes_mapM {f : γ → Action α} {g : γ → Action α} {xs : List γ}
    (h : ∀ x ∈ xs, Relaxes (· = ·) (f x) (g x)) : Relaxes (· = ·) (xs.mapM f) (xs.mapM g) := by
  induction xs with
  | nil => exact relaxes_pure rfl
  | cons x xs ih =>
    rw [List.mapM_cons, List.mapM_cons]
    refine (h x List.mem_cons_self).bind ?_
    rintro y _ rfl
    refine (ih fun z hz => h z (List.mem_cons_of_mem x hz)).bind ?_
    rintro ys _ rfl
    exact relaxes_pure rfl

/-- A cleanup after a failure changes neither the error nor who has refused. -/
theorem Relaxes.onError {lax : Action α} {strict : Action β} {cleanup : Error → Action Unit}
    (h : Relaxes R lax strict)
    (hcleanup : ∀ e s, wp (cleanup e) (fun _ _ => True) (fun _ _ => False) s) :
    Relaxes R (onError lax cleanup) (onError strict cleanup) := by
  intro s t hst
  rw [wp_onError]
  refine wp_mono (h s t hst) ?_ ?_
  · intro y t' hlax
    rw [wp_onError]
    exact wp_mono hlax (fun _ _ h => h) fun _ _ h => h.elim
  · intro e t' hfails
    refine wp_mono (hcleanup e t') (fun _ _ _ => ?_) fun _ _ h => h.elim
    refine hfails.imp id fun hlax => ?_
    rw [wp_onError]
    refine wp_mono hlax (fun _ _ h => h.elim) fun e' s' he' => ?_
    exact wp_mono (hcleanup e' s') (fun _ _ _ => he') fun _ _ h => h.elim

/-- Failing with another error does not matter as long as errors of the client stay such. -/
theorem Relaxes.rethrow {lax : Action α} {strict : Action β} {raise : Error → Error}
    (h : Relaxes R lax strict) (hraise : ∀ e, e.isClient = true → (raise e).isClient = true) :
    Relaxes R (tryCatch lax fun e => throw (raise e))
      (tryCatch strict fun e => throw (raise e)) := by
  intro s t hst
  rw [wp_tryCatch]
  refine wp_mono (h s t hst) ?_ ?_
  · intro y t' hlax
    rw [wp_tryCatch]
    exact wp_mono hlax (fun _ _ h => h) fun _ _ h => h.elim
  · intro e t' hfails
    rw [wp_throw, wp_tryCatch]
    refine hfails.imp (hraise e) fun hlax => wp_mono hlax (fun _ _ h => h.elim) ?_
    rintro _ _ rfl
    rfl

end Rules

/-! ## Asking for converters -/

section Converters

variable {env : Environment}

/-- The converters found for a type differ at most in whether they are lenient. -/
theorem relaxes_resolve (env : Environment) (d : Descriptor) :
    Relaxes Installed.Laxer (Action.resolve env d) (Action.resolve env d) := by
  refine relaxes_get fun s t hst => (relaxes_ofExcept (hst.registry.resolve env d)).bind ?_
  rintro ⟨r, i⟩ ⟨r', j⟩ ⟨hr, hij⟩
  refine (relaxes_modify fun s t hst => hst.withRegistry hr).bind fun _ _ _ => ?_
  exact relaxes_pure hij

theorem relaxes_report (e e' : Event) : Relaxes (· = ·) (Action.report e) (Action.report e') :=
  relaxes_modify fun _ _ hst => hst.withJournals _ _

theorem relaxes_count (c : Counter) : Relaxes (· = ·) (Action.count c) (Action.count c) :=
  relaxes_modify fun _ _ hst => hst.withJournals _ _

/-- What is remembered for a wrapper differs at most in whether it is lenient. -/
theorem relaxes_keepDerived (d : Descriptor) {c c' : Converter} (hc : c.Laxer c') :
    Relaxes Installed.Laxer (Environment.keepDerived d c) (Environment.keepDerived d c') := by
  refine relaxes_get fun s t hst => ?_
  obtain ⟨hregistry, hinstalled⟩ := hst.registry.install d hc
  refine (relaxes_modify fun _ _ hst' => hst'.keep hregistry d hinstalled).bind fun _ _ _ => ?_
  exact relaxes_pure hinstalled

/-- An error of the client is passed on as it is. -/
theorem isClient_innerUnhandled (inner : Descriptor) (e : Error) (h : e.isClient = true) :
    (Environment.innerUnhandled inner e).isClient = true := by
  unfold Environment.innerUnhandled
  split
  · cases h
  · exact h

/-- **Both registries have a converter for a type or neither has one**, through any depth of
wrappers. Induction on the budget. -/
theorem relaxes_converterFor (env : Environment) (budget : Nat) : ∀ d : Descriptor,
    Relaxes Installed.Laxer (env.converterFor budget d) (env.converterFor budget d) := by
  induction budget with
  | zero => exact fun _ => relaxes_throw _
  | succ budget ih =>
    intro d
    unfold Environment.converterFor
    dsimp only
    split
    · exact relaxes_resolve env _
    · refine relaxes_get fun s t hst => ?_
      have hmemo := hst.derived d.nonNull
      cases hlax : s.derived.get? d.nonNull with
      | some i =>
        cases hstrict : t.derived.get? d.nonNull with
        | none => rw [hlax, hstrict] at hmemo; cases hmemo
        | some j =>
          rw [hlax, hstrict] at hmemo
          cases hmemo with
          | some hij => exact relaxes_pure hij
      | none =>
        cases hstrict : t.derived.get? d.nonNull with
        | some j => rw [hlax, hstrict] at hmemo; cases hmemo
        | none =>
          refine (relaxes_ofExcept (Alike.refl _)).bind ?_
          rintro inner _ rfl
          refine ((ih inner).rethrow (isClient_innerUnhandled inner)).bind fun i j hij => ?_
          refine (relaxes_ofExcept (hij.map _ _)).bind fun c c' hc => ?_
          -- a default that was dropped is reported in both runs or in neither
          have hkeep := (relaxes_keepDerived d.nonNull hc).bind fun i j hij =>
            (relaxes_report (.converterDerived d.nonNull inner)
              (.converterDerived d.nonNull inner)).bind fun _ _ _ =>
              (relaxes_count .wrapperConverters).bind fun _ _ _ => relaxes_pure hij
          rw [hij.default, hc.default]
          split
          · exact (relaxes_report _ _).bind fun _ _ _ => hkeep
          · exact hkeep

end Converters

/-! ## Programs that differ in leniency -/

/-- The leaf types have the same converters in both registries. Only those of numbers are
lenient. -/
theorem laxer_leafConverters (zones : ZoneDirectory) :
    List.Forall₂ Converter.Laxer (leafConverters zones true) (leafConverters zones false) := by
  have hplain : List.Forall₂ Converter.Laxer (plainConverters zones) (plainConverters zones) :=
    List.forall₂_same.2 fun c _ => .refl c
  have hnumeric :
      List.Forall₂ Converter.Laxer (numericConverters true) (numericConverters false) := by
    unfold numericConverters
    simp only [List.forall₂_cons]
    refine ⟨?_, ?_, ?_, ?_, ?_, ?_, ?_, ?_, .nil⟩ <;> exact ⟨rfl, fun _ => rfl⟩
  exact List.rel_append hnumeric hplain

/-- The standard registries differ only in what is lenient. -/
theorem Registry.laxer_standard (zones : ZoneDirectory) :
    (Registry.standard zones true).Laxer (.standard zones false) := by
  have hempty : (Registry.empty true).Laxer (.empty false) := ⟨fun _ => rfl, fun _ => .none⟩
  have hinstalled : ∀ {cs cs' : List Converter} {r r' : Registry},
      List.Forall₂ Converter.Laxer cs cs' → r.Laxer r' →
      (cs.foldl (fun r c => (r.install c.target c).1) r).Laxer
        (cs'.foldl (fun r c => (r.install c.target c).1) r') := by
    intro cs cs' r r' hcs hr
    induction hcs generalizing r r' with
    | nil => exact hr
    | @cons c c' _ _ hc _ ih =>
      have htarget : c.target = c'.target := by rw [hc.same]
      rw [List.foldl_cons, List.foldl_cons, htarget]
      exact ih (hr.install _ hc).1
  exact hinstalled (laxer_leafConverters zones) hempty

/-- What a program adds to the converters that it starts with: a converter made from a parser,
lenient as the program says or as the registry is, or the converter of another type. -/
inductive Registration where
  | install (a : TypeExpr) (parse : String → Except Error Value) (default : Option Value)
      (schema : Schema) (lenient strict : Bool)
  | register (a : TypeExpr) (parse : String → Except Error Value) (default : Option Value)
      (schema : Schema)
  | share (source target : TypeExpr)

namespace Registration

def action (api : Api) : Registration → Action Installed
  | install a parse default schema lenient strict =>
    Api.install a parse default schema lenient strict
  | register a parse default schema => Api.register a parse default schema
  | share source target => api.share source target

/-- The state after a registration, whether it succeeds or fails. -/
def run (api : Api) (s : State) (r : Registration) : State := ((r.action api).run s).2

section Run

variable {api api' : Api} {s t : State}

/-- A type expression that describes nothing changes nothing. -/
theorem laxer_described {α : Type} {f g : Descriptor → Action α} (h : s.Laxer t) (a : TypeExpr)
    (hnext : ∀ d, ((f d).run s).2.Laxer ((g d).run t).2) :
    ((Api.described a >>= f).run s).2.Laxer ((Api.described a >>= g).run t).2 := by
  unfold Api.described
  cases (describe a).mapError Error.unresolvedReference with
  | error e => exact h
  | ok d => exact hnext d

/-- A registration keeps the states as they are to each other, if the lenient one is lenient
wherever the strict one is. -/
theorem laxer_install (h : s.Laxer t) (a : TypeExpr) (parse : String → Except Error Value)
    (default : Option Value) (schema : Schema) {lenient lenient' : Bool}
    (hlenient : lenient' = true → lenient = true) (strict : Bool) :
    ((Api.install a parse default schema lenient strict).run s).2.Laxer
      ((Api.install a parse default schema lenient' strict).run t).2 :=
  laxer_described h a fun d => h.withRegistry (h.registry.install d ⟨rfl, hlenient⟩).1

/-- Looking up a converter may install one for an enumeration; nothing else changes. -/
theorem run_resolve (env : Environment) (d : Descriptor) (s : State) :
    (Action.resolve env d).run s =
      match s.registry.resolve env d with
      | .ok (registry, installed) => (.ok installed, { s with registry })
      | .error e => (.error e, s) := by
  show (Action.ofExcept (s.registry.resolve env d) >>= _).run s = _
  cases s.registry.resolve env d with
  | ok found => rfl
  | error e => rfl

/-- Sharing a converter keeps the states as they are to each other. -/
theorem laxer_share (henv : api.env = api'.env) (h : s.Laxer t) (source target : TypeExpr) :
    ((api.share source target).run s).2.Laxer ((api'.share source target).run t).2 := by
  refine laxer_described h source fun d => ?_
  rw [← henv, run_bind, run_bind, run_resolve, run_resolve]
  have hresolve := h.registry.resolve api.env d
  generalize s.registry.resolve api.env d = x at hresolve ⊢
  generalize t.registry.resolve api.env d = y at hresolve ⊢
  cases hresolve with
  | error e => exact h
  | @ok found found' hfound =>
    obtain ⟨registry, i⟩ := found
    obtain ⟨registry', j⟩ := found'
    obtain ⟨hregistry, hij⟩ := hfound
    -- what the source's enumeration has added stays, also where the target describes nothing
    have hadded := h.withRegistry hregistry
    exact laxer_described hadded target fun d' => h.withRegistry (hregistry.add d' hij)

/-- A registration by the surface is as lenient as the registry. -/
theorem run_register (a : TypeExpr) (parse : String → Except Error Value) (default : Option Value)
    (schema : Schema) (s : State) :
    (Api.register a parse default schema).run s =
      (Api.install a parse default schema s.registry.lenient false).run s := by
  have hget : ∀ next : State → Action Installed, ((get : Action State) >>= next).run s =
      (next s).run s := fun _ => rfl
  rw [Api.register, hget]

/-- **Registrations keep two programs apart in leniency alone.** -/
theorem laxer_run (henv : api.env = api'.env) (h : s.Laxer t) (r : Registration) :
    (r.run api s).Laxer (r.run api' t) := by
  cases r with
  | install a parse default schema lenient strict =>
    exact laxer_install h a parse default schema id strict
  | register a parse default schema =>
    rw [run, run, action, action, run_register, run_register]
    exact laxer_install h a parse default schema h.registry.lenient false
  | share source target => exact laxer_share henv h source target

end Run

end Registration

namespace Api

/-- The state of a program after its registrations. -/
def started (api : Api) (zones : ZoneDirectory) (registrations : List Registration) : State :=
  registrations.foldl (Registration.run api) (api.start zones)

/-- The program, lenient or not, and as it is otherwise. -/
def withLeniency (api : Api) (lenient : Bool) : Api :=
  { api with settings := { api.settings with lenientPrimitives := lenient } }

/-- **Programs that differ in leniency alone and make the same registrations start alike.** -/
theorem laxer_started (api : Api) (zones : ZoneDirectory) (registrations : List Registration) :
    ((api.withLeniency true).started zones registrations).Laxer
      ((api.withLeniency false).started zones registrations) := by
  have hstart : ((api.withLeniency true).start zones).Laxer
      ((api.withLeniency false).start zones) := by
    have hset : ∀ lenient, (api.withLeniency lenient).settings.lenientPrimitives = lenient :=
      fun _ => rfl
    refine ⟨?_, fun _ => .none, rfl⟩
    rw [start, start, hset, hset]
    exact Registry.laxer_standard zones
  unfold started
  generalize (api.withLeniency true).start zones = s at hstart
  generalize (api.withLeniency false).start zones = t at hstart
  induction registrations generalizing s t with
  | nil => exact hstart
  | cons r rest ih => exact ih _ _ (Registration.laxer_run rfl hstart r)

end Api

end ApiShape
