import ApiShape.State
import Mathlib.Data.List.Forall2

/-!
# Reasoning about actions

`Action.wp action post fail s` says what holds after `action` has been run from `s`: `post` of the
result and the new state if it succeeds, `fail` of the error and the new state if it fails. One
equation per way to build an action takes an action apart; `wp_mapM` does the same for a list of
actions by an invariant.

Steps without a state are taken apart by `bind_eq_ok_iff` and its like, and two of them are compared
by `Alike`. Where the result of a run is to be known exactly, `run_bind_iff` takes it apart, and
`run_mapM_iff` does so for a list of actions by a relation, `InOrder`.

`Action.Follows` and `Action.Agrees` compare the runs of one action from two states; the first of
them asks nothing of a run that uses up its budget.
-/

namespace ApiShape

/-- Both give related results, or both fail with one error. -/
inductive Alike {α β : Type} (R : α → β → Prop) : Except Error α → Except Error β → Prop
  | ok {x : α} {y : β} (h : R x y) : Alike R (.ok x) (.ok y)
  | error (e : Error) : Alike R (.error e) (.error e)

namespace Alike

variable {α β γ δ : Type} {R : α → β → Prop} {S : γ → δ → Prop} {x : Except Error α}
  {y : Except Error β}

theorem refl (x : Except Error α) : Alike (· = ·) x x := by
  cases x with
  | ok x => exact .ok rfl
  | error e => exact .error e

theorem imp {R' : α → β → Prop} (h : Alike R x y) (hR : ∀ a b, R a b → R' a b) : Alike R' x y := by
  cases h with
  | ok h => exact .ok (hR _ _ h)
  | error e => exact .error e

theorem flip (h : Alike R x y) : Alike (flip R) y x := by
  cases h with
  | ok h => exact .ok h
  | error e => exact .error e

/-- Alike results stay alike when related values are mapped to related values. -/
theorem map {f : α → γ} {g : β → δ} (h : Alike R x y) (hfg : ∀ a b, R a b → S (f a) (g b)) :
    Alike S (x.map f) (y.map g) := by
  cases h with
  | ok h => exact .ok (hfg _ _ h)
  | error e => exact .error e

/-- Alike computations go on alike from related values. -/
theorem bind {f : α → Except Error γ} {g : β → Except Error δ} (h : Alike R x y)
    (hnext : ∀ a b, R a b → Alike S (f a) (g b)) : Alike S (x >>= f) (y >>= g) := by
  cases h with
  | ok h => exact hnext _ _ h
  | error e => exact .error e

/-- Two lists of related items are visited alike if the items are. -/
theorem mapM {f : α → Except Error γ} {g : β → Except Error δ} {xs : List α} {ys : List β}
    (h : List.Forall₂ R xs ys) (hstep : ∀ a b, R a b → Alike S (f a) (g b)) :
    Alike (List.Forall₂ S) (xs.mapM f) (ys.mapM g) := by
  induction h with
  | nil => exact .ok .nil
  | cons hab _ ih =>
    rw [List.mapM_cons, List.mapM_cons]
    exact (hstep _ _ hab).bind fun _ _ hfirst => ih.bind fun _ _ hrest => .ok (.cons hfirst hrest)

end Alike

end ApiShape

namespace ApiShape.Action

variable {α β : Type} {s : State} {post : α → State → Prop} {fail : Error → State → Prop}

/-- `post` holds after the action if it succeeds, and `fail` if it fails. -/
def wp (action : Action α) (post : α → State → Prop) (fail : Error → State → Prop) (s : State) :
    Prop :=
  match action.run s with
  | (.ok x, s') => post x s'
  | (.error e, s') => fail e s'

/-! ## Results -/

theorem bind_eq_ok_iff {ε : Type} {x : Except ε α} {f : α → Except ε β} {b : β} :
    (x >>= f) = .ok b ↔ ∃ a, x = .ok a ∧ f a = .ok b := by
  cases x <;> simp [bind, Except.bind]

theorem bind_eq_error_iff {ε : Type} {x : Except ε α} {f : α → Except ε β} {e : ε} :
    (x >>= f) = .error e ↔ x = .error e ∨ ∃ a, x = .ok a ∧ f a = .error e := by
  cases x <;> simp [bind, Except.bind]

theorem map_eq_ok_iff {ε : Type} {x : Except ε α} {f : α → β} {b : β} :
    x.map f = .ok b ↔ ∃ a, x = .ok a ∧ f a = b := by
  cases x <;> simp [Except.map]

theorem map_eq_error_iff {ε : Type} {x : Except ε α} {f : α → β} {e : ε} :
    x.map f = .error e ↔ x = .error e := by
  cases x <;> simp [Except.map]

/-- A visit that succeeds has a result for every item. -/
theorem forall₂_of_mapM_ok {ε : Type} {f : β → Except ε α} {xs : List β} {ys : List α}
    (h : xs.mapM f = .ok ys) : List.Forall₂ (fun x y => f x = .ok y) xs ys := by
  induction xs generalizing ys with
  | nil =>
    cases h
    exact .nil
  | cons x xs ih =>
    rw [List.mapM_cons] at h
    obtain ⟨y, hx, htail⟩ := bind_eq_ok_iff.1 h
    obtain ⟨more, hrest, hpure⟩ := bind_eq_ok_iff.1 htail
    cases hpure
    exact .cons hx (ih hrest)

/-- Every result is that of an item. -/
theorem exists_of_mapM_ok {ε : Type} {f : β → Except ε α} {xs : List β} {ys : List α}
    (h : xs.mapM f = .ok ys) : ∀ y ∈ ys, ∃ x ∈ xs, f x = .ok y := by
  have hall := forall₂_of_mapM_ok h
  intro y hy
  obtain ⟨i, rfl⟩ := List.mem_iff_get.1 hy
  have hi : i.1 < xs.length := by
    rw [hall.length_eq]
    exact i.2
  exact ⟨xs.get ⟨i.1, hi⟩, List.get_mem .., hall.get hi i.2⟩

/-- The error is that of an item. -/
theorem exists_of_mapM_error {ε : Type} {f : β → Except ε α} {xs : List β} {e : ε}
    (h : xs.mapM f = .error e) : ∃ x ∈ xs, f x = .error e := by
  induction xs with
  | nil => cases h
  | cons x xs ih =>
    rw [List.mapM_cons] at h
    rcases bind_eq_error_iff.1 h with hx | ⟨y, -, hrest⟩
    · exact ⟨x, List.mem_cons_self, hx⟩
    · rcases bind_eq_error_iff.1 hrest with hxs | ⟨ys, -, hpure⟩
      · obtain ⟨z, hz, hfails⟩ := ih hxs
        exact ⟨z, List.mem_cons_of_mem x hz, hfails⟩
      · cases hpure

/-! ## Runs -/

/-- What the first action leaves behind is what the next one starts from. -/
theorem run_bind (action : Action β) (next : β → Action α) (s : State) :
    (action >>= next).run s =
      match action.run s with
      | (.ok x, s') => (next x).run s'
      | (.error e, s') => (.error e, s') := by
  show (ExceptT.bindCont next (action.run s).1 : StateM State (Except Error α))
    (action.run s).2 = _
  cases action.run s with
  | mk result s' => cases result <;> rfl

theorem ofExcept_ok_bind (x : β) (next : β → Action α) :
    (ofExcept (.ok x) >>= next) = next x := rfl

/-- An action and the next one end as the next one does, or as the first one fails. -/
theorem run_bind_iff {action : Action β} {next : β → Action α} {result : Except Error α}
    {s' : State} :
    (action >>= next).run s = (result, s') ↔
      (∃ x s₁, action.run s = (.ok x, s₁) ∧ (next x).run s₁ = (result, s')) ∨
        ∃ e, action.run s = (.error e, s') ∧ result = .error e := by
  rw [run_bind]
  cases action.run s with
  | mk first s₁ =>
    constructor
    · intro hrun
      cases first with
      | ok x => exact .inl ⟨x, s₁, rfl, hrun⟩
      | error e =>
        cases hrun
        exact .inr ⟨e, rfl, rfl⟩
    · rintro (⟨x, s₂, heq, hrun⟩ | ⟨e, heq, rfl⟩)
      · cases heq
        exact hrun
      · cases heq
        rfl

/-- What needs no state leaves it as it was. -/
theorem run_ofExcept_iff {x result : Except Error α} {s' : State} :
    (ofExcept x).run s = (result, s') ↔ x = result ∧ s' = s := by
  show (x, s) = (result, s') ↔ _
  rw [Prod.mk.injEq, eq_comm (a := s)]

/-- The handler starts from what the failure left behind. -/
theorem run_tryCatch (action : Action α) (handle : Error → Action α) (s : State) :
    (tryCatch action handle).run s =
      match action.run s with
      | (.ok x, s') => (.ok x, s')
      | (.error e, s') => (handle e).run s' := by
  unfold run
  simp only [tryCatch, tryCatchThe, MonadExceptOf.tryCatch, ExceptT.tryCatch, ExceptT.run,
    ExceptT.mk, StateT.run, bind, StateT.bind]
  cases (action : StateM State (Except Error α)) s with
  | mk result s' => cases result <;> rfl

/-- A cleanup that does not fail leaves the result as it is. -/
theorem run_onError {action : Action α} {cleanup : Error → Action Unit}
    (after : Error → State → State)
    (hcleanup : ∀ e s, (cleanup e).run s = (.ok (), after e s)) (s : State) :
    (onError action cleanup).run s =
      match action.run s with
      | (.ok x, s') => (.ok x, s')
      | (.error e, s') => (.error e, after e s') := by
  rw [onError, run_tryCatch]
  cases action.run s with
  | mk result s' =>
    cases result with
    | ok x => rfl
    | error e =>
      show (cleanup e >>= fun _ => throw e).run s' = _
      rw [run_bind, hcleanup]
      rfl

/-! ## One equation per construct -/

@[simp] theorem wp_pure (x : α) : wp (pure x) post fail s ↔ post x s := Iff.rfl

@[simp] theorem wp_throw (e : Error) : wp (throw e : Action α) post fail s ↔ fail e s := Iff.rfl

/-- The rule of sequence: what the next action needs is what the first has to give. -/
@[simp] theorem wp_bind (action : Action β) (next : β → Action α) :
    wp (action >>= next) post fail s ↔
      wp action (fun x s' => wp (next x) post fail s') fail s := by
  show (match (action >>= next).run s with
      | (.ok x, s') => post x s'
      | (.error e, s') => fail e s') ↔
    (match action.run s with
      | (.ok x, s') => wp (next x) post fail s'
      | (.error e, s') => fail e s')
  rw [run_bind]
  cases action.run s with
  | mk result s' => cases result <;> exact Iff.rfl

@[simp] theorem wp_ofExcept_ok (x : α) : wp (ofExcept (.ok x)) post fail s ↔ post x s := Iff.rfl

@[simp] theorem wp_ofExcept_error (e : Error) :
    wp (ofExcept (.error e) : Action α) post fail s ↔ fail e s := Iff.rfl

@[simp] theorem wp_get {post : State → State → Prop} : wp get post fail s ↔ post s s := Iff.rfl

@[simp] theorem wp_modify {post : PUnit → State → Prop} (f : State → State) :
    wp (modify f) post fail s ↔ post ⟨⟩ (f s) := Iff.rfl

@[simp] theorem wp_count {post : Unit → State → Prop} (c : Counter) :
    wp (count c) post fail s ↔ post () { s with journal := s.journal.count c } := Iff.rfl

@[simp] theorem wp_report {post : Unit → State → Prop} (e : Event) :
    wp (report e) post fail s ↔ post () { s with journal := s.journal.report e } := Iff.rfl

/-- A handler takes over from the state in which the action failed. -/
@[simp] theorem wp_tryCatch (action : Action α) (handle : Error → Action α) :
    wp (tryCatch action handle) post fail s ↔
      wp action post (fun e s' => wp (handle e) post fail s') s := by
  unfold wp
  rw [run_tryCatch]
  cases action.run s with
  | mk result s' => cases result <;> exact Iff.rfl

/-- A cleanup sees the state that the failure left behind, and the error is raised after it. -/
theorem wp_onError (action : Action α) (cleanup : Error → Action Unit) :
    wp (onError action cleanup) post fail s ↔
      wp action post (fun e s' => wp (cleanup e) (fun _ s₂ => fail e s₂) fail s') s := by
  rw [onError, wp_tryCatch]
  simp only [wp_bind, wp_throw]

/-! ## Consequences -/

/-- The rule of consequence. -/
theorem wp_mono {post' : α → State → Prop} {fail' : Error → State → Prop} {action : Action α}
    (h : wp action post fail s) (hpost : ∀ x s', post x s' → post' x s')
    (hfail : ∀ e s', fail e s' → fail' e s') : wp action post' fail' s := by
  unfold wp at h ⊢
  cases hrun : action.run s with
  | mk result s' =>
    rw [hrun] at h
    cases result with
    | ok x => exact hpost x s' h
    | error e => exact hfail e s' h

/-- Two specifications of one action hold together. -/
theorem wp_and {post' : α → State → Prop} {fail' : Error → State → Prop} {action : Action α}
    (h : wp action post fail s) (h' : wp action post' fail' s) :
    wp action (fun x s' => post x s' ∧ post' x s') (fun e s' => fail e s' ∧ fail' e s') s := by
  unfold wp at h h' ⊢
  cases hrun : action.run s with
  | mk result s' =>
    rw [hrun] at h h'
    cases result with
    | ok x => exact ⟨h, h'⟩
    | error e => exact ⟨h, h'⟩

theorem wp_trivial (action : Action α) (s : State) :
    wp action (fun _ _ => True) (fun _ _ => True) s := by
  unfold wp
  split <;> trivial

/-- A run ends as it does. -/
theorem wp_run (action : Action α) (s : State) :
    wp action (fun x s' => action.run s = (.ok x, s')) (fun e s' => action.run s = (.error e, s'))
      s := by
  unfold wp
  split
  · next hrun => exact hrun
  · next hrun => exact hrun

/-- What holds after a successful run. -/
theorem post_of_run {action : Action α} {x : α} {s' : State} (h : wp action post fail s)
    (hrun : action.run s = (.ok x, s')) : post x s' := by
  rwa [wp, hrun] at h

/-- What holds after a failed run. -/
theorem fail_of_run {action : Action α} {e : Error} {s' : State} (h : wp action post fail s)
    (hrun : action.run s = (.error e, s')) : fail e s' := by
  rwa [wp, hrun] at h

/-- What holds after a run, however it ends. -/
theorem snd_of_wp {action : Action α} {p : State → Prop}
    (h : wp action (fun _ s' => p s') (fun _ s' => p s') s) : p (action.run s).2 := by
  unfold wp at h
  cases hrun : action.run s with
  | mk result s' =>
    rw [hrun] at h
    cases result with
    | ok x => exact h
    | error e => exact h

/-! ## Lists of actions -/

/-- **An invariant of the prefix that has been run and of its results holds of the whole list.** -/
theorem wp_mapM {f : β → Action α} {xs : List β} (inv : List β → List α → State → Prop)
    (hnil : inv [] [] s)
    (hstep : ∀ before results x s', x ∈ xs → inv before results s' →
      wp (f x) (fun y s₂ => inv (before ++ [x]) (results ++ [y]) s₂) fail s') :
    wp (xs.mapM f) (fun results s' => inv xs results s') fail s := by
  -- the invariant speaks of what has been run, so the induction is on what is left
  suffices hrest : ∀ rest before results s', rest ⊆ xs → inv before results s' →
      wp (rest.mapM f) (fun more s₂ => inv (before ++ rest) (results ++ more) s₂) fail s' from
    hrest xs [] [] s (List.Subset.refl xs) hnil
  intro rest
  induction rest with
  | nil =>
    intro before results s' _ hinv
    rw [List.mapM_nil, wp_pure, List.append_nil, List.append_nil]
    exact hinv
  | cons x rest ih =>
    intro before results s' hsub hinv
    rw [List.mapM_cons, wp_bind]
    refine wp_mono (hstep before results x s' (hsub List.mem_cons_self) hinv) ?_ fun _ _ h => h
    intro y s₂ hinv'
    rw [wp_bind]
    refine wp_mono (ih _ _ s₂ (fun z hz => hsub (List.mem_cons_of_mem x hz)) hinv') ?_
      fun _ _ h => h
    intro more s₃ hmore
    rw [wp_pure]
    simpa using hmore

/-- A list of actions gives as many results. -/
theorem wp_mapM_length (f : β → Action α) (xs : List β) (s : State) :
    wp (xs.mapM f) (fun results _ => results.length = xs.length) (fun _ _ => True) s := by
  refine wp_mapM (fun before results _ => results.length = before.length) rfl ?_
  intro before results x s' _ hlength
  refine wp_mono (wp_trivial (f x) s') (fun _ _ _ => ?_) fun _ _ h => h
  rw [List.length_append, List.length_append, hlength, List.length_singleton,
    List.length_singleton]

theorem mapM_congr {f g : β → Action α} {xs : List β} (h : ∀ x ∈ xs, f x = g x) :
    xs.mapM f = xs.mapM g := by
  induction xs with
  | nil => rfl
  | cons x xs ih =>
    rw [List.mapM_cons, List.mapM_cons, h x List.mem_cons_self,
      ih fun y hy => h y (List.mem_cons_of_mem x hy)]

/-! ## Lists of actions, as a relation

What single actions do is given by a relation between an item, the state before, the result and the
state after. -/

section Relation

variable {f : β → Action α} {R : β → State → Except Error α → State → Prop} {xs : List β}

/-- The items succeed one after the other. -/
inductive Each (R : β → State → Except Error α → State → Prop) :
    List β → State → List α → State → Prop
  | nil (s : State) : Each R [] s [] s
  | cons {x : β} {xs : List β} {y : α} {ys : List α} {s s₁ s₂ : State} (hx : R x s (.ok y) s₁)
      (hrest : Each R xs s₁ ys s₂) : Each R (x :: xs) s (y :: ys) s₂

/-- All items succeed, or the first that fails decides. -/
inductive InOrder (R : β → State → Except Error α → State → Prop) (xs : List β) (s : State) :
    Except Error (List α) → State → Prop
  | all {ys : List α} {s' : State} (h : Each R xs s ys s') : InOrder R xs s (.ok ys) s'
  | firstFailure {before after : List β} {x : β} {ys : List α} {e : Error} {s₁ s' : State}
      (hsplit : xs = before ++ x :: after) (hbefore : Each R before s ys s₁)
      (hx : R x s₁ (.error e) s') : InOrder R xs s (.error e) s'

/-- An item that succeeds is put in front. -/
theorem InOrder.cons {x : β} {y : α} {s₁ s' : State} {result : Except Error (List α)}
    (hx : R x s (.ok y) s₁) (h : InOrder R xs s₁ result s') :
    InOrder R (x :: xs) s (result.map (y :: ·)) s' := by
  cases h with
  | all h => exact .all (.cons hx h)
  | firstFailure hsplit hbefore hfails =>
    exact .firstFailure (by rw [hsplit, List.cons_append]) (.cons hx hbefore) hfails

/-- Items that leave the state as it is do so together. -/
theorem Each.state_eq {ys : List α} {s' : State} (h : Each R xs s ys s')
    (hR : ∀ x ∈ xs, ∀ s y s', R x s (.ok y) s' → s' = s) : s' = s := by
  induction h with
  | nil => rfl
  | cons hx _ ih =>
    rw [ih fun z hz => hR z (List.mem_cons_of_mem _ hz), hR _ List.mem_cons_self _ _ _ hx]

/-- A visit whose items come to results one after the other comes to the list of these results. -/
theorem Each.run (hR : ∀ x ∈ xs, ∀ s result s', (f x).run s = (result, s') ↔ R x s result s')
    {ys : List α} {s' : State} (h : Each R xs s ys s') : (xs.mapM f).run s = (.ok ys, s') := by
  induction h with
  | nil => rfl
  | @cons x xs y ys s s₁ s₂ hx _ ih =>
    have hfirst : (f x).run s = (.ok y, s₁) := (hR x List.mem_cons_self _ _ _).2 hx
    have hrest := ih fun z hz => hR z (List.mem_cons_of_mem x hz)
    rw [List.mapM_cons, run_bind, hfirst]
    show (xs.mapM f >>= fun ys => pure (y :: ys)).run s₁ = _
    rw [run_bind, hrest]
    rfl

/-- **What a list of actions does, by what each of them does.** -/
theorem run_mapM_iff
    (hR : ∀ x ∈ xs, ∀ s result s', (f x).run s = (result, s') ↔ R x s result s')
    (s : State) (result : Except Error (List α)) (s' : State) :
    (xs.mapM f).run s = (result, s') ↔ InOrder R xs s result s' := by
  constructor
  · -- induction on the list: the first item succeeds and the rest decides, or it fails
    intro hrun
    induction xs generalizing s result s' with
    | nil =>
      cases hrun
      exact .all (.nil s)
    | cons x xs ih =>
      have hx := hR x List.mem_cons_self s
      have hxs := fun z hz => hR z (List.mem_cons_of_mem x hz)
      rw [List.mapM_cons, run_bind] at hrun
      cases hfirst : (f x).run s with
      | mk first s₁ =>
        rw [hfirst] at hrun
        cases first with
        | error e =>
          cases hrun
          exact .firstFailure rfl (.nil s) ((hx _ _).1 hfirst)
        | ok y =>
          replace hrun : (xs.mapM f >>= fun ys => pure (y :: ys)).run s₁ = (result, s') := hrun
          rw [run_bind] at hrun
          cases hrest : (xs.mapM f).run s₁ with
          | mk rest s₂ =>
            rw [hrest] at hrun
            have htail := (ih hxs s₁ rest s₂ hrest).cons ((hx _ _).1 hfirst)
            cases rest with
            | error e => cases hrun; exact htail
            | ok ys => cases hrun; exact htail
  · intro h
    cases h with
    | all h => exact h.run hR
    | @firstFailure before after x ys e s₁ _ hsplit hbefore hx =>
      subst hsplit
      have hrun := hbefore.run fun z hz => hR z (List.mem_append_left _ hz)
      have hfails : (f x).run s₁ = (.error e, s') :=
        (hR x (List.mem_append_right before List.mem_cons_self) _ _ _).2 hx
      -- what stands behind the failing item is not run
      rw [List.mapM_append, run_bind, hrun]
      show ((x :: after).mapM f >>= fun zs => pure (ys ++ zs)).run s₁ = _
      rw [run_bind, List.mapM_cons, run_bind, hfails]

end Relation

/-! ## What an action keeps -/

/-- What holds before the action holds after it, however the action ends. -/
def Keeps (p : State → Prop) (action : Action α) : Prop :=
  ∀ s, p s → wp action (fun _ s' => p s') (fun _ s' => p s') s

section Keeps

variable {p : State → Prop}

theorem keeps_pure (x : α) : Keeps p (pure x) := fun _ h => h

theorem keeps_throw (e : Error) : Keeps p (throw e : Action α) := fun _ h => h

theorem keeps_ofExcept (x : Except Error α) : Keeps p (ofExcept x) := by
  intro s h
  cases x with
  | ok x => exact h
  | error e => exact h

theorem keeps_get : Keeps p get := fun _ h => h

theorem keeps_modify {f : State → State} (hf : ∀ s, p s → p (f s)) : Keeps p (modify f) := hf

/-- Two actions in sequence keep what both of them keep. -/
theorem Keeps.bind {action : Action β} {next : β → Action α} (haction : Keeps p action)
    (hnext : ∀ x, Keeps p (next x)) : Keeps p (action >>= next) := by
  intro s h
  rw [wp_bind]
  exact wp_mono (haction s h) (fun x s' h' => hnext x s' h') fun _ _ h => h

/-- A visit keeps what it keeps at every item. -/
theorem Keeps.mapM {f : β → Action α} {xs : List β} (hf : ∀ x ∈ xs, Keeps p (f x)) :
    Keeps p (xs.mapM f) := fun _ h =>
  wp_mapM (fun _ _ s' => p s') h fun _ _ x s' hx h' => hf x hx s' h'

/-- A clean-up on failure must keep the property, too. -/
theorem Keeps.onError {action : Action α} {cleanup : Error → Action Unit} (haction : Keeps p action)
    (hcleanup : ∀ e, Keeps p (cleanup e)) : Keeps p (onError action cleanup) := by
  intro s h
  rw [wp_onError]
  exact wp_mono (haction s h) (fun _ _ h => h) fun e s' h' =>
    wp_mono (hcleanup e s' h') (fun _ _ h => h) fun _ _ h => h

end Keeps

/-! ## Two runs of one action -/

/-- An action that cannot fail has a result. -/
theorem exists_run_ok {action : Action α} (h : wp action post (fun _ _ => False) s) :
    ∃ x s', action.run s = (.ok x, s') ∧ post x s' := by
  unfold wp at h
  cases hrun : action.run s with
  | mk result s' =>
    rw [hrun] at h
    cases result with
    | ok x => exact ⟨x, s', rfl, h⟩
    | error e => exact h.elim

/-- An action that cannot succeed fails. -/
theorem exists_run_error {action : Action α} (h : wp action (fun _ _ => False) fail s) :
    ∃ e s', action.run s = (.error e, s') ∧ fail e s' := by
  unfold wp at h
  cases hrun : action.run s with
  | mk result s' =>
    rw [hrun] at h
    cases result with
    | ok x => exact h.elim
    | error e => exact ⟨e, s', rfl, h⟩

theorem wp_of_run_ok {action : Action α} {x : α} {s' : State} (hrun : action.run s = (.ok x, s'))
    (h : post x s') : wp action post fail s := by
  rwa [wp, hrun]

theorem wp_of_run_error {action : Action α} {e : Error} {s' : State}
    (hrun : action.run s = (.error e, s')) (h : fail e s') : wp action post fail s := by
  rwa [wp, hrun]

/-- Unless the run from `s` uses up its budget, the run from `t` ends as it does: with the same
result in a related state, or with the same error. -/
def Follows (related : State → State → Prop) (action : Action α) (s t : State) : Prop :=
  wp action
    (fun x s' => wp action (fun y t' => y = x ∧ related s' t') (fun _ _ => False) t)
    (fun e _ => e ≠ .exhausted → wp action (fun _ _ => False) (fun e' _ => e' = e) t) s

/-- **A run that does not use up its budget is followed to the same result.** -/
theorem Follows.result {related : State → State → Prop} {action : Action α} {t : State}
    (h : Follows related action s t) (hends : (action.run s).1 ≠ .error .exhausted) :
    (action.run t).1 = (action.run s).1 := by
  unfold Follows at h
  cases hrun : action.run s with
  | mk result s' =>
    rw [hrun] at hends
    cases result with
    | ok x =>
      have hok := post_of_run h hrun
      obtain ⟨y, t', hrun', rfl, -⟩ := exists_run_ok hok
      rw [hrun']
    -- an error other than a spent budget is raised in both
    | error e =>
      have hne : e ≠ .exhausted := by
        rintro rfl
        exact hends rfl
      have hfails := fail_of_run h hrun
      obtain ⟨e', t', hrun', rfl⟩ := exists_run_error (hfails hne)
      rw [hrun']

/-- What holds of each run by itself may be added to what relates the two. -/
theorem Follows.and {related : State → State → Prop} {p q : State → Prop} {action : Action α}
    {t : State} (h : Follows related action s t)
    (hs : wp action (fun _ s' => p s') (fun _ _ => True) s)
    (ht : wp action (fun _ t' => q t') (fun _ _ => True) t) :
    Follows (fun s' t' => related s' t' ∧ p s' ∧ q t') action s t := by
  refine wp_mono (wp_and h hs) ?_ fun _ _ h => h.1
  rintro x s' ⟨hrest, hp⟩
  refine wp_mono (wp_and hrest ht) ?_ fun _ _ h => h.1
  rintro y t' ⟨⟨rfl, hrelated⟩, hq⟩
  exact ⟨rfl, hrelated, hp, hq⟩

/-- **Two runs of a list of actions end alike if those of each action do.** -/
theorem follows_mapM {related : State → State → Prop} {f : β → Action α} {xs : List β}
    (hstep : ∀ x ∈ xs, ∀ s t, related s t → Follows related (f x) s t) :
    ∀ s t, related s t → Follows related (xs.mapM f) s t := by
  induction xs with
  | nil =>
    intro s t hrelated
    exact ⟨rfl, hrelated⟩
  | cons x xs ih =>
    intro s t hrelated
    rw [Follows, List.mapM_cons]
    simp only [wp_bind, wp_pure]
    refine wp_mono (hstep x List.mem_cons_self s t hrelated) ?_ ?_
    · intro y s' hfirst
      -- both runs are past the first action, with one result and in related states
      obtain ⟨_, t', hrun, rfl, hrelated'⟩ := exists_run_ok hfirst
      refine wp_mono (ih (fun x hx => hstep x (List.mem_cons_of_mem _ hx)) s' t' hrelated') ?_ ?_
      · intro ys s₂ hrest
        refine wp_of_run_ok hrun (wp_mono hrest ?_ fun _ _ h => h)
        rintro ys' t₂ ⟨rfl, hrelated₂⟩
        exact ⟨rfl, hrelated₂⟩
      · intro e s₂ hrest hends
        exact wp_of_run_ok hrun (wp_mono (hrest hends) (fun _ _ h => h.elim) fun _ _ h => h)
    · intro e s' hfirst hends
      exact wp_mono (hfirst hends) (fun _ _ h => h.elim) fun _ _ h => h

/-- The run from `t` ends as the run from `s` does: with the same result or the same error, and in a
related state. -/
def Agrees (related : State → State → Prop) (action : Action α) (s t : State) : Prop :=
  wp action
    (fun x s' => wp action (fun y t' => y = x ∧ related s' t') (fun _ _ => False) t)
    (fun e s' => wp action (fun _ _ => False) (fun e' t' => e' = e ∧ related s' t') t) s

/-- Agreeing is giving the same result and leaving related states behind. -/
theorem agrees_iff {related : State → State → Prop} {action : Action α} {t : State} :
    Agrees related action s t ↔
      (action.run t).1 = (action.run s).1 ∧ related (action.run s).2 (action.run t).2 := by
  unfold Agrees wp
  cases action.run s with
  | mk result s' =>
    cases action.run t with
    | mk result' t' => cases result <;> cases result' <;> simp

/-- **Two runs of a list of actions agree if those of each action do.** Induction on the list: up to
the first failure both runs have got the same results. -/
theorem agrees_mapM {related : State → State → Prop} {f : β → Action α} {xs : List β}
    (hstep : ∀ x ∈ xs, ∀ s t, related s t → Agrees related (f x) s t) :
    ∀ s t, related s t → Agrees related (xs.mapM f) s t := by
  induction xs with
  | nil =>
    intro s t hrelated
    exact ⟨rfl, hrelated⟩
  | cons x xs ih =>
    intro s t hrelated
    have hrest := ih fun x hx => hstep x (List.mem_cons_of_mem _ hx)
    rw [Agrees, List.mapM_cons]
    simp only [wp_bind, wp_pure]
    refine wp_mono (hstep x List.mem_cons_self s t hrelated) ?_ ?_
    · -- the first action ends in both, in related states
      intro y s' hfirst
      obtain ⟨_, t', hrun, rfl, hrelated'⟩ := exists_run_ok hfirst
      refine wp_mono (hrest s' t' hrelated') ?_ ?_
      · intro ys s₂ hmore
        refine wp_of_run_ok hrun (wp_mono hmore ?_ fun _ _ h => h)
        rintro ys' t₂ ⟨rfl, hrelated₂⟩
        exact ⟨rfl, hrelated₂⟩
      · intro e s₂ hmore
        exact wp_of_run_ok hrun (wp_mono hmore (fun _ _ h => h.elim) fun _ _ h => h)
    · -- it fails in both, and the rest is not run
      intro e s' hfirst
      exact wp_mono hfirst (fun _ _ h => h.elim) fun _ _ h => h

end ApiShape.Action
