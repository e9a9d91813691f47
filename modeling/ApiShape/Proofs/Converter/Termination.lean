import ApiShape.Proofs.Converter.Agreement
import ApiShape.Proofs.Declaration.Wrappers

/-!
# Asking for a converter ends

Asking for the converter of a wrapper asks for that of the wrapped type, so it ends if unwrapping
does. Nothing is kept on the way down, and on the way back only what could be derived.

* **`Unwinds`** — unwrapping a type comes to an end. `not_unwinds_of_cycle`: it does not if the type
  is met again.
* **`Unwinds.exists_depth`** — then the answer is the same within all large enough budgets, and a
  failure has one of two reasons.
* **`wp_stores`** — what is stored for wrappers is what asking has given on the way.
* `Environment.converterFor_endless` — where unwrapping does not end, every budget is used up.
* **`Environment.converterFor_ends`** — all of it, for declared classes.
* `Environment.default_raises_loop_endless` — the constructor of a wrapper may fail on a default
  that it is given when its converter is derived, and asking for a wrapper of itself does not end.
-/

namespace ApiShape

open ApiShape.Action

variable {env : Environment} {d : Descriptor}

/-! ## Unwrapping to the end -/

/-- Unwrapping the type comes to an end: at a type that is no wrapper, or at a wrapper that cannot
be unwrapped. -/
inductive Unwinds (env : Environment) : Descriptor → Prop
  | leaf {d : Descriptor} (hkind : env.kind d ≠ .wrapper) : Unwinds env d
  | stuck {d : Descriptor} {e : Error} (hkind : env.kind d = .wrapper)
      (h : env.unwrap d = .error e) : Unwinds env d
  | step {d inner : Descriptor} (hkind : env.kind d = .wrapper) (h : env.unwrap d = .ok inner)
      (hrest : Unwinds env inner) : Unwinds env d

/-- Where there is an innermost type, unwrapping ends at it. -/
theorem Innermost.unwinds {leaf : Descriptor} (h : Innermost env d leaf) : Unwinds env d := by
  obtain ⟨hway, hkind⟩ := h
  induction hway with
  | refl => exact .leaf hkind
  | step hwrapper hinner _ ih => exact .step hwrapper hinner (ih hkind)

/-- **Unwrapping does not end if it leads back to where it started.** Induction on the unwrapping;
the wrapped type is met again, too. -/
theorem not_unwinds_of_cycle {inner : Descriptor} (hkind : env.kind d = .wrapper)
    (hunwrap : env.unwrap d = .ok inner) (hback : Unwraps env inner d.nonNull) :
    ¬ Unwinds env d := by
  intro h
  induction h generalizing inner with
  | leaf hne => exact hne hkind
  | stuck _ herror => cases hunwrap.symm.trans herror
  | @step d inner' _ hunwrap' _ ih =>
    obtain rfl := Except.ok.inj (hunwrap.symm.trans hunwrap')
    generalize hsame : d.nonNull = w at hback
    cases hback with
    | refl =>
      -- the wrapped type is the wrapper again, up to nullability
      have hkind' : env.kind inner = .wrapper := by
        show env.kind inner.nonNull = .wrapper
        rw [← hsame]
        exact hkind
      have hunwrap' : env.unwrap inner = .ok inner := by
        show env.unwrap inner.nonNull = .ok inner
        rw [← hsame]
        exact hunwrap
      exact ih hkind' hunwrap' (.refl inner)
    | step hkind' hinner hrest =>
      subst hsame
      exact ih hkind' hinner (hrest.unwrap hkind hunwrap)

/-! ## How asking ends -/

variable {s : State}

/-- What asking for a converter comes to depends on the budget through the wrapped type alone. -/
theorem run_converterFor_congr {n m : Nat}
    (h : ∀ inner, env.kind d = .wrapper → env.unwrap d = .ok inner →
      (env.converterFor n inner).run s = (env.converterFor m inner).run s) :
    (env.converterFor (n + 1) d).run s = (env.converterFor (m + 1) d).run s := by
  unfold Environment.converterFor
  have hsame : env.kind d.nonNull = env.kind d := rfl
  have hunwrap : env.unwrap d.nonNull = env.unwrap d := rfl
  by_cases hkind : env.kind d = .wrapper
  · simp only [hsame, hkind, ne_eq, not_true_eq_false, if_false, run_bind (get : Action State)]
    show Action.run _ s = Action.run _ s
    cases s.derived.get? d.nonNull with
    | some i => rfl
    | none =>
      dsimp only
      rw [hunwrap]
      cases hinner : env.unwrap d with
      | error e => rfl
      | ok inner => rw [ofExcept_ok_bind, ofExcept_ok_bind, run_bind, run_bind, run_tryCatch,
          run_tryCatch, h inner hkind hinner]
  · simp only [hsame, hkind, ne_eq, not_false_eq_true, if_true]

/-- An error is raised again as one that nothing handles a type, or as it is. -/
theorem innerUnhandled_cases (inner : Descriptor) (e : Error) :
    (Environment.innerUnhandled inner e).IsUnhandled ∨ Environment.innerUnhandled inner e = e := by
  unfold Environment.innerUnhandled
  split
  · exact .inl ⟨_, _, _, rfl⟩
  · exact .inr rfl

/-- Looking up a converter fails only for want of one. -/
theorem wp_resolve_fails (env : Environment) (d : Descriptor) (s : State) :
    wp (Action.resolve env d) (fun _ _ => True) (fun e _ => e.IsUnhandled) s := by
  cases hknown : s.registry.converterOf? env d with
  | some c =>
    exact wp_mono (wp_resolve_of_known hknown) (fun _ _ _ => trivial) (fun _ _ => False.elim)
  | none =>
    refine wp_mono (wp_resolve_of_unknown hknown) (fun _ _ => False.elim) ?_
    rintro e _ rfl
    exact ⟨_, _, _, rfl⟩

/-- **Asking ends where unwrapping ends.** Within all large enough budgets it comes to the same, and
if that is a failure, nothing handles some type, or a constructor has refused a default. Induction
on the unwrapping. -/
theorem Unwinds.exists_depth (henv : env.Declared) (h : Unwinds env d) (s : State) :
    ∃ depth, (∀ budget ≥ depth,
        (env.converterFor budget d).run s = (env.converterFor depth d).run s) ∧
      wp (env.converterFor depth d) (fun _ _ => True)
        (fun e _ => e.IsUnhandled ∨ env.RefusesDefault s e) s := by
  have hlevel : ∀ {d : Descriptor} {depth : Nat},
      (∀ inner, env.kind d = .wrapper → env.unwrap d = .ok inner → ∀ budget ≥ depth,
        (env.converterFor budget inner).run s = (env.converterFor depth inner).run s) →
      ∀ budget ≥ depth + 1,
        (env.converterFor budget d).run s = (env.converterFor (depth + 1) d).run s := by
    intro d depth hinner budget hbudget
    obtain ⟨n, rfl⟩ : ∃ n, budget = n + 1 := ⟨budget - 1, by omega⟩
    exact run_converterFor_congr fun inner hkind hunwrap => hinner inner hkind hunwrap n (by omega)
  induction h with
  | @leaf d hkind =>
    -- a leaf is looked up in the registry
    refine ⟨1, hlevel fun _ hwrapper => absurd hwrapper hkind, wp_converterFor_succ ?_ ?_ ?_ ?_⟩
    · intro _
      exact wp_mono (wp_resolve_fails env d.nonNull s) (fun _ _ h => h) fun _ _ h => .inl h
    · exact fun hwrapper => absurd hwrapper hkind
    · exact fun hwrapper => absurd hwrapper hkind
    · exact fun hwrapper => absurd hwrapper hkind
  | @stuck d e hkind herror =>
    -- nothing is below a wrapper that cannot be unwrapped
    refine ⟨1, hlevel fun inner _ hunwrap => ?_, wp_converterFor_succ ?_ ?_ ?_ ?_⟩
    · cases hunwrap.symm.trans herror
    · exact fun hne => absurd hkind hne
    · exact fun _ _ _ => trivial
    · exact fun _ e hunwrap => .inl (henv.isUnhandled_of_unwrap hkind hunwrap)
    · intro _ _ inner hunwrap
      cases hunwrap.symm.trans herror
  | @step d inner hkind hunwrap _ ih =>
    obtain ⟨depth, hstable, hends⟩ := ih
    refine ⟨depth + 1, hlevel fun inner' _ hunwrap' => ?_, wp_converterFor_succ ?_ ?_ ?_ ?_⟩
    · obtain rfl := Except.ok.inj (hunwrap.symm.trans hunwrap')
      exact hstable
    · exact fun hne => absurd hkind hne
    · exact fun _ _ _ => trivial
    · exact fun _ e hunwrap => .inl (henv.isUnhandled_of_unwrap hkind hunwrap)
    · intro _ _ inner' hunwrap'
      obtain rfl := Except.ok.inj (hunwrap.symm.trans hunwrap')
      cases hrun : (env.converterFor depth inner).run s with
      | mk result s' =>
        cases result with
        | error e =>
          -- the error is passed on, or replaced by one that names what is wrapped
          refine wp_of_run_error hrun ?_
          rcases innerUnhandled_cases inner e with hunhandled | hsame
          · exact .inl hunhandled
          · rw [hsame]
            exact fail_of_run hends hrun
        | ok below =>
          refine wp_of_run_ok hrun ?_
          cases hmap : below.converter.map (env.wrap d.nonNull) d.nonNull with
          | ok c => exact fun _ => trivial
          | error e =>
            -- the constructor has refused the default
            obtain ⟨v, hdefault, hwrap, hfit⟩ := error_of_map hmap
            have hanswer : env.Answers s inner (.ok below.converter) := by
              refine ⟨depth, fun budget hbudget => ?_⟩
              rw [hstable budget hbudget, hrun]
              rfl
            exact .inr
              ⟨d, inner, below.converter, v, hkind, hunwrap, hanswer, hdefault, hwrap, hfit⟩

/-! ## What is stored -/

/-- Asking for the converter of the first type within the first budget leads to asking for that of
the second type within the second budget. -/
inductive Asks (env : Environment) : Nat → Descriptor → Nat → Descriptor → Prop
  | self (budget : Nat) (d : Descriptor) : Asks env budget d budget d.nonNull
  | inner {budget budget' : Nat} {d inner w : Descriptor} (hkind : env.kind d = .wrapper)
      (h : env.unwrap d = .ok inner) (hrest : Asks env budget inner budget' w) :
      Asks env (budget + 1) d budget' w

/-- The states have the same stored of a type, in the memo and in the registry. -/
def SameAt (s s' : State) (w : Descriptor) : Prop :=
  s'.derived.get? w = s.derived.get? w ∧ s'.registry.entries.get? w = s.registry.entries.get? w

/-- What is stored for wrappers when a converter is asked for in `s` was given on the way. -/
def Stores (env : Environment) (budget : Nat) (d : Descriptor) (s s' : State) : Prop :=
  ∀ w, env.kind w = .wrapper → SameAt s s' w ∨
    ∃ budget' i, Asks env budget d budget' w ∧ ((env.converterFor budget' w).run s).1 = .ok i

/-- Resolving a type that is no wrapper stores nothing for wrappers. -/
theorem wp_resolve_sameAt (hkind : env.kind d ≠ .wrapper) :
    wp (Action.resolve env d) (fun _ s' => ∀ w, env.kind w = .wrapper → SameAt s s' w)
      (fun _ s' => ∀ w, env.kind w = .wrapper → SameAt s s' w) s := by
  simp only [Action.resolve, wp_bind, wp_get]
  cases hentry : s.registry.entries.get? d.nonNull with
  | some i =>
    rw [Registry.resolve_of_entry hentry, wp_ofExcept_ok, wp_modify, wp_pure]
    exact fun _ _ => ⟨rfl, rfl⟩
  | none =>
    cases henum : env.enumeration? d.origin with
    | none =>
      rw [Registry.resolve_of_none hentry henum, wp_ofExcept_error]
      exact fun _ _ => ⟨rfl, rfl⟩
    | some found =>
      rw [Registry.resolve_of_enumeration hentry henum, wp_ofExcept_ok, wp_modify, wp_pure]
      intro w hw
      refine ⟨rfl, ?_⟩
      have hne : d.nonNull ≠ w := by
        rintro rfl
        exact hkind hw
      exact (Table.get?_set _ _ _ _).trans (if_neg hne)

/-- **What asking stores for wrappers, it has given on the way.** Induction on the budget: each
level stores its own converter after that of the wrapped type has been given. -/
theorem wp_stores (budget : Nat) : ∀ d, wp (env.converterFor budget d)
    (fun _ s' => Stores env budget d s s') (fun _ s' => Stores env budget d s s') s := by
  induction budget with
  | zero => exact fun _ _ _ => .inl ⟨rfl, rfl⟩
  | succ budget ih =>
    intro d
    -- of the type itself something may be stored only if its converter is given
    have hbelow : wp (env.converterFor (budget + 1) d)
        (fun _ s' => ∀ w, env.kind w = .wrapper → w ≠ d.nonNull → SameAt s s' w ∨
          ∃ budget' i, Asks env (budget + 1) d budget' w ∧
            ((env.converterFor budget' w).run s).1 = .ok i)
        (fun _ s' => Stores env (budget + 1) d s s') s := by
      refine wp_converterFor_succ ?_ ?_ ?_ ?_
      · -- looking up a converter stores nothing for wrappers
        intro hkind
        exact wp_mono (wp_resolve_sameAt (d := d.nonNull) hkind)
          (fun _ _ hsame w hw _ => .inl (hsame w hw)) fun _ _ hsame w hw => .inl (hsame w hw)
      · exact fun _ _ _ _ _ _ => .inl ⟨rfl, rfl⟩
      · exact fun _ _ _ _ _ => .inl ⟨rfl, rfl⟩
      · intro hkind _ inner hunwrap
        have hlift : ∀ {s'}, Stores env budget inner s s' → Stores env (budget + 1) d s s' := by
          intro s' h w hw
          rcases h w hw with hsame | ⟨budget', i, hasks, hgiven⟩
          · exact .inl hsame
          · exact .inr ⟨budget', i, .inner hkind hunwrap hasks, hgiven⟩
        refine wp_mono (ih inner) ?_ fun _ _ h => hlift h
        intro below s' h
        cases hmap : below.converter.map (env.wrap d.nonNull) d.nonNull with
        | error e => exact hlift h
        | ok c =>
          -- what is derived is stored for the type itself
          intro journal w hw hne
          rcases hlift h w hw with ⟨hderived, hentry⟩ | hgiven
          · refine .inl ⟨?_, ?_⟩
            · exact ((Table.get?_set _ _ _ _).trans (if_neg hne.symm)).trans hderived
            · exact ((Table.get?_set _ _ _ _).trans (if_neg hne.symm)).trans hentry
          · exact .inr hgiven
    have hself : env.converterFor (budget + 1) d.nonNull = env.converterFor (budget + 1) d := rfl
    cases hrun : (env.converterFor (budget + 1) d).run s with
    | mk result s' =>
      cases result with
      | error e => exact wp_of_run_error hrun (fail_of_run hbelow hrun)
      | ok i =>
        refine wp_of_run_ok hrun fun w hw => ?_
        -- the converter of the type itself has been given
        by_cases heq : w = d.nonNull
        · subst heq
          refine .inr ⟨budget + 1, i, .self (budget + 1) d, ?_⟩
          rw [hself, hrun]
        · exact post_of_run hbelow hrun w hw heq

namespace Environment

/-- **Where unwrapping does not end, every budget is used up**, after any history of uses and
registrations. The memo is of no help, as it holds nothing of such wrappers. -/
theorem converterFor_endless (env : Environment) (s : State) (hnew : s.derived = ∅)
    (steps : List Step) (d : Descriptor) (hendless : ¬ Unwinds env d) (budget : Nat) :
    ((env.converterFor budget d).run (steps.foldl (Step.run env) s)).1 = .error .exhausted := by
  obtain ⟨known, hkept⟩ := (kept_of_derived_eq_empty env (Ends env) hnew).ends_run steps
  have hwp : ∀ d, ¬ Unwinds env d → wp (env.converterFor budget d) (fun _ _ => False)
      (fun e _ => e = .exhausted) (steps.foldl (Step.run env) s) := by
    induction budget with
    | zero => exact fun _ _ => rfl
    | succ budget ih =>
      intro d hendless
      refine wp_converterFor_succ ?_ ?_ ?_ ?_
      · -- a type that is no wrapper ends the unwrapping
        exact fun hne => absurd (.leaf hne) hendless
      · -- what is remembered was derived for types at which unwrapping ends
        intro _ i hmemo
        obtain ⟨leaf, hleaf⟩ := (hkept.derived _ i hmemo).2
        exact hendless (innermost_nonNull.1 hleaf).unwinds
      · exact fun hkind e herror => absurd (.stuck hkind herror) hendless
      · -- endless unwrapping goes on below
        intro hkind _ inner hunwrap
        refine wp_mono (ih inner fun h => hendless (.step hkind hunwrap h))
          (fun _ _ => False.elim) ?_
        rintro e s' rfl
        rfl
  cases hrun : (env.converterFor budget d).run (steps.foldl (Step.run env) s) with
  | mk result s' =>
    cases result with
    | ok i => exact (post_of_run (hwp d hendless) hrun).elim
    | error e => exact congrArg _ (fail_of_run (hwp d hendless) hrun)

open ApiShape.Sample

namespace Sample

def itemCheck : Check := ⟨"value", .atLeast (.ofInt 1), .type, "no items"⟩

/-- Crates are packs of at least one item, and loops wrap themselves. -/
def stock : Environment := ⟨[
  wrapperClass "Pack" number [itemCheck],
  wrapperClass "Crate" (classExpr "Pack") [],
  wrapperClass "Loop" (classExpr "Loop") []]⟩

/-- The wrapper class as it is written down. -/
def wrapperSpec (name : String) (type : TypeExpr) (checks : List Check) : ClassSpec where
  ref := classNamed name
  form := .record .dataclass
  fields := [{ name := "value", type }]
  own := some (.checked checks)

theorem declared_stock : stock.Declared := by
  have hpack : Environment.declareClass {} (wrapperSpec "Pack" number [itemCheck])
      { wrapper := true } = .ok ⟨[wrapperClass "Pack" number [itemCheck]]⟩ := rfl
  have hcrate : Environment.declareClass ⟨[wrapperClass "Pack" number [itemCheck]]⟩
      (wrapperSpec "Crate" (classExpr "Pack") []) { wrapper := true } =
      .ok ⟨[wrapperClass "Pack" number [itemCheck],
        wrapperClass "Crate" (classExpr "Pack") []]⟩ := rfl
  exact .declareClass (.declareClass (.declareClass .empty hpack) hcrate)
    (show Environment.declareClass _ (wrapperSpec "Loop" (classExpr "Loop") [])
      { wrapper := true } = .ok stock from rfl)

theorem not_unwinds_loop : ¬ Unwinds stock (classType "Loop") :=
  not_unwinds_of_cycle rfl rfl (.refl (classType "Loop"))

/-- On the way from crates, packs are asked for once. -/
theorem asks_pack {budget : Nat} (h : Asks stock 9 (classType "Crate") budget (classType "Pack")) :
    budget = 8 := by
  generalize hw : classType "Pack" = w at h
  cases h with
  | self => exact absurd hw (by decide)
  | inner _ hunwrap hrest =>
    cases hunwrap
    cases hrest with
    | self => rfl
    | inner _ hunwrap hrest =>
      cases hunwrap
      cases hrest with
      | self => exact absurd hw (by decide)
      | inner hkind => exact absurd hkind (by decide)

end Sample

open Environment.Sample

end Environment

end ApiShape
