import ApiShape.Proofs.Action

/-!
# What a larger budget changes

An action that runs out of its budget fails with `Error.exhausted`. With a larger budget it may end,
and all that ended before ends as it did. **`Persists`** says so of two actions that run from
related states, and the rules below put it together along the ways to build an action; they serve
wherever one recursion follows another one with a budget of its own. The budget that the other one
needs is found by `exists_bound_forall₂` and `exists_bound`.
-/

namespace ApiShape.Action

variable {α β γ : Type} {related : State → State → Prop}

/-- From related states, `other` comes to whatever `action` comes to within its budget, and the
states that they leave are related. -/
def Persists (related : State → State → Prop) (action other : Action α) : Prop :=
  ∀ s t, related s t → (action.run s).1 ≠ .error .exhausted →
    (other.run t).1 = (action.run s).1 ∧ related (action.run s).2 (other.run t).2

theorem persists_exhausted (other : Action α) : Persists related (throw .exhausted) other :=
  fun _ _ _ hends => absurd rfl hends

theorem persists_ofExcept (x : Except Error α) : Persists related (ofExcept x) (ofExcept x) :=
  fun _ _ hst _ => ⟨rfl, hst⟩

theorem persists_pure (x : α) : Persists related (pure x) (pure x) := persists_ofExcept (.ok x)

theorem persists_throw (e : Error) : Persists related (throw e : Action α) (throw e) :=
  persists_ofExcept (.error e)

/-- Changes of state persist if they keep related states related. -/
theorem persists_modify {f g : State → State} (h : ∀ s t, related s t → related (f s) (g t)) :
    Persists related (modify f) (modify g) := fun s t hst _ => ⟨rfl, h s t hst⟩

/-- What is done after reading the state may depend on the states that are read. -/
theorem persists_get {next next' : State → Action α}
    (h : ∀ s t, related s t → Persists related (next s) (next' t)) :
    Persists related (get >>= next) (get >>= next') :=
  fun s t hst hends => h s t hst s t hst hends

/-- An action that keeps `p` goes with itself from one state in `p`. -/
theorem Keeps.persists {p : State → Prop} {action : Action α} (h : Keeps p action) :
    Persists (fun s t => t = s ∧ p s) action action := by
  rintro s _ ⟨rfl, hs⟩ _
  exact ⟨rfl, rfl, snd_of_wp (h _ hs)⟩

/-- A sequence persists if both of its actions do. -/
theorem Persists.bind {action other : Action β} {next next' : β → Action α}
    (h : Persists related action other) (hnext : ∀ x, Persists related (next x) (next' x)) :
    Persists related (action >>= next) (other >>= next') := by
  intro s t hst hends
  have hfirst := h s t hst
  rw [run_bind] at hends ⊢
  rw [run_bind]
  cases hrun : action.run s with
  | mk result s' =>
    cases hother : other.run t with
    | mk result' t' =>
      rw [hrun] at hends hfirst
      rw [hother] at hfirst
      cases result with
      | error e =>
        have hne : (Except.error e : Except Error β) ≠ .error .exhausted := by
          rintro ⟨⟩
          exact hends rfl
        obtain ⟨rfl, hst'⟩ := hfirst hne
        exact ⟨rfl, hst'⟩
      | ok x =>
        obtain ⟨rfl, hst'⟩ := hfirst (by rintro ⟨⟩)
        exact hnext x s' t' hst' hends

/-- Steps without a state that give related results are gone on from alike. -/
theorem persists_alike {R : β → γ → Prop} {x : Except Error β} {y : Except Error γ}
    {next : β → Action α} {next' : γ → Action α} (h : Alike R x y)
    (hnext : ∀ a b, R a b → Persists related (next a) (next' b)) :
    Persists related (ofExcept x >>= next) (ofExcept y >>= next') := by
  cases h with
  | ok hab => exact hnext _ _ hab
  | error e => exact persists_throw e

/-- Actions that persist one by one do so in order. -/
theorem Persists.mapM {f : β → Action α} {g : γ → Action α} {xs : List β} {ys : List γ}
    (h : List.Forall₂ (fun x y => Persists related (f x) (g y)) xs ys) :
    Persists related (xs.mapM f) (ys.mapM g) := by
  induction h with
  | nil => exact persists_pure []
  | cons hxy _ ih =>
    rw [List.mapM_cons, List.mapM_cons]
    exact hxy.bind fun _ => ih.bind fun _ => persists_pure _

/-- Two actions that both succeed give one result. -/
theorem persists_of_wp {action other : Action Unit}
    (h : ∀ s t, related s t → wp action (fun _ s' => wp other (fun _ t' => related s' t')
      (fun _ _ => False) t) (fun _ _ => False) s) : Persists related action other := by
  intro s t hst _
  obtain ⟨⟨⟩, s', hrun, hother⟩ := exists_run_ok (h s t hst)
  obtain ⟨⟨⟩, t', hrun', hst'⟩ := exists_run_ok hother
  rw [hrun, hrun']
  exact ⟨rfl, hst'⟩

/-- What the pairs of two lists need each, all of them together need. -/
theorem exists_bound_forall₂ {P : β → γ → ℕ → Prop} {xs : List β} {ys : List γ}
    (h : List.Forall₂ (fun x y => ∃ bound, ∀ n, bound ≤ n → P x y n) xs ys) :
    ∃ bound, ∀ n, bound ≤ n → List.Forall₂ (fun x y => P x y n) xs ys := by
  induction h with
  | nil => exact ⟨0, fun _ _ => .nil⟩
  | cons hxy _ ih =>
    obtain ⟨first, hfirst⟩ := hxy
    obtain ⟨rest, hrest⟩ := ih
    refine ⟨max first rest, fun n hn => .cons (hfirst n ?_) (hrest n ?_)⟩ <;> omega

/-- What each of finitely many things needs, all of them together need. -/
theorem exists_bound {P : β → ℕ → Prop} {xs : List β}
    (h : ∀ x ∈ xs, ∃ bound, ∀ n, bound ≤ n → P x n) :
    ∃ bound, ∀ x ∈ xs, ∀ n, bound ≤ n → P x n := by
  obtain ⟨bound, hbound⟩ := exists_bound_forall₂ (P := fun x _ => P x) (List.forall₂_same.2 h)
  exact ⟨bound, fun x hx n hn => List.forall₂_same.1 (hbound n hn) x hx⟩

end ApiShape.Action
