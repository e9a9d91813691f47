import ApiShape.Proofs.Converter.Composition

/-!
# What is said of a wrapper that nothing handles

If the type at the end of a chain of wrappers has no converter, the error about it is caught at each
level and raised again in terms of the type that is wrapped there.

* `Environment.unhandledThrough` — the error that arrives at the top of the chain, with its causes.
* **`Wrapping.wp_converterFor_unhandled`** — asking for the converter of the chain fails with it.
* **`Environment.derive_unhandled`** — so it does in every state that a program can come to: the
  error names the type directly below the outermost wrapper, and the type that lacks a converter is
  named by the last cause. The two are the same for a single wrapper alone.
* `Environment.unhandled_names_wrapper` — under two wrappers a wrapper is named.
-/

namespace ApiShape

open ApiShape.Action

variable {env : Environment} {d leaf : Descriptor} {ws : List Descriptor}

/-- The last of the errors that caused the error, one after the other. -/
def Error.root : Error → Error
  | .unhandledType _ _ (some cause) => cause.root
  | e => e

namespace Environment

/-- The error about a chain of wrappers whose innermost type nothing handles. -/
def unhandledThrough (leaf : Descriptor) : List Descriptor → Error
  | [] => .unhandled leaf none
  | _ :: ws =>
    .unhandledType (.described (ws.head?.getD leaf)) none (some (unhandledThrough leaf ws))

/-- The first cause names the innermost type. -/
theorem root_unhandledThrough (leaf : Descriptor) (ws : List Descriptor) :
    (unhandledThrough leaf ws).root = .unhandled leaf none := by
  induction ws with
  | nil => rfl
  | cons w ws ih => exact ih

end Environment

/-- The first type on the way is the type itself. -/
theorem Wrapping.head (h : Wrapping env d ws leaf) : ws.head?.getD leaf = d.nonNull := by
  cases h with
  | leaf => rfl
  | outer => rfl

/-- **The type below names the error of a wrapper.** -/
theorem Wrapping.innerUnhandled (h : Wrapping env d ws leaf) (w : Descriptor) :
    Environment.innerUnhandled d (Environment.unhandledThrough leaf ws) =
      Environment.unhandledThrough leaf (w :: ws) := by
  rw [Environment.unhandledThrough, h.head]
  cases ws with
  | nil => rfl
  | cons => rfl

/-- For wrappers, deriving a converter is asking for it. -/
theorem Environment.derive_of_wrapper (hkind : env.kind d = .wrapper) (budget : Nat) :
    env.derive budget d = env.converterFor budget d := by
  rw [Environment.derive, if_neg (not_not.2 hkind)]

/-- Nothing is remembered of a wrapper whose innermost type is not known. -/
def HasLeaf (env : Environment) (known : Descriptor → Option Converter) (w : Descriptor)
    (_ : Converter) : Prop :=
  ∀ leaf, Innermost env w leaf → known leaf ≠ none

variable {known : Descriptor → Option Converter} {s : State}

/-- Having an innermost type with a converter is closed under derivation. -/
theorem closed_hasLeaf (env : Environment) (known : Descriptor → Option Converter) :
    Closed env known (HasLeaf env known) where
  known {d c} hkind hknown leaf hleaf := by
    obtain rfl : leaf = d.nonNull := hleaf.unique ⟨.refl d.nonNull, hkind⟩
    rw [hknown]
    exact Option.some_ne_none c
  mapped {d inner c c'} hkind hunwrap hinner _ leaf hleaf := by
    refine hinner leaf (innermost_nonNull.2 ?_)
    obtain ⟨hway, hleafKind⟩ := innermost_nonNull.1 hleaf
    cases hway with
    | refl => exact absurd hkind hleafKind
    | step _ hunwrap' hrest =>
      obtain rfl := Except.ok.inj (hunwrap.symm.trans hunwrap')
      exact ⟨hrest, hleafKind⟩

/-- Registrations take no converter away, so it stays that way. -/
theorem Kept.hasLeaf_run (h : Kept env known (HasLeaf env known) s) (steps : List Step) :
    ∃ known', Kept env known' (HasLeaf env known') (steps.foldl (Step.run env) s) := by
  refine Kept.steps (HasLeaf env) (fun _ _ => True) (closed_hasLeaf env)
    (fun _ _ _ _ => trivial) ?_ h steps trivial
  intro known s d parse default schema lenient strict rest h _ w i hmemo leaf hleaf
  by_cases heq : d.nonNull = leaf.nonNull
  · have hentry : (s.registry.register d parse default schema lenient strict).1.entries.get?
        leaf.nonNull = some (s.registry.register d parse default schema lenient strict).2 := by
      rw [← heq]
      exact (Table.get?_set _ _ _ _).trans (if_pos rfl)
    rw [Registry.converterOf?, hentry]
    exact Option.some_ne_none _
  · have hsame :
        (s.registry.register d parse default schema lenient strict).1.converterOf? env leaf =
        s.registry.converterOf? env leaf := Registry.converterOf?_install _ _ heq
    rw [hsame, h.registry leaf hleaf.2]
    exact (h.derived w i hmemo).2 leaf hleaf

/-- **The error of each level is raised again at the next one.** Induction on the chain; the memo
answers at no level, as it remembers nothing of wrappers around an unknown type. -/
theorem Wrapping.wp_converterFor_unhandled (h : Wrapping env d ws leaf)
    (hkept : Kept env known (HasLeaf env known) s) (hnone : known leaf = none) {budget : Nat}
    (hbudget : ws.length < budget) :
    wp (env.converterFor budget d) (fun _ _ => False)
      (fun e _ => e = Environment.unhandledThrough leaf ws) s := by
  induction h generalizing budget with
  | @leaf d hkind =>
    obtain ⟨n, rfl⟩ := Nat.exists_eq_add_of_lt hbudget
    -- the leaf has no converter, so resolving it names the leaf
    refine wp_converterFor_succ ?_ ?_ ?_ ?_
    · intro _
      refine wp_resolve_of_unknown (d := d.nonNull) ?_
      rw [hkept.registry d.nonNull hkind]
      exact hnone
    · exact fun hwrapper => absurd hwrapper hkind
    · exact fun hwrapper => absurd hwrapper hkind
    · exact fun hwrapper => absurd hwrapper hkind
  | @outer d inner leaf ws hkind hunwrap hrest ih =>
    obtain ⟨n, rfl⟩ := Nat.exists_eq_add_of_lt hbudget
    have hleaf := (Wrapping.outer hkind hunwrap hrest).innermost
    refine wp_converterFor_succ ?_ ?_ ?_ ?_
    · -- at a wrapper the memo cannot answer, for it keeps only what has a leaf with a converter
      exact fun hne => absurd hkind hne
    · intro _ i hmemo
      exact (hkept.derived _ i hmemo).2 leaf (innermost_nonNull.2 hleaf) hnone
    · intro _ e herror
      cases hunwrap.symm.trans herror
    · -- so the wrapped type is asked, and its error is told again one level further out
      intro _ _ inner' hunwrap'
      obtain rfl := Except.ok.inj (hunwrap.symm.trans hunwrap')
      have hlength : ws.length < (d.nonNull :: ws).length + n := by
        rw [List.length_cons]
        omega
      refine wp_mono (ih hnone hlength) (fun _ _ hfalse => hfalse.elim) ?_
      rintro e s' rfl
      exact hrest.innerUnhandled d.nonNull

namespace Environment

/-- **What is said of wrappers around a type without a converter.** After any history of uses and
registrations, deriving the converter of the outermost wrapper and asking for it fail with one
error. It names the type directly below that wrapper; its causes name the types below one after the
other and end in the error that nothing handles the innermost type. So the innermost type itself is
named exactly if there is no other wrapper around it. -/
theorem derive_unhandled (env : Environment) (s : State) (hnew : s.derived = ∅) (steps : List Step)
    (d w leaf : Descriptor) (ws : List Descriptor) (hchain : Wrapping env d (w :: ws) leaf) :
    let after := steps.foldl (Step.run env) s
    after.registry.converterOf? env leaf = none →
    ∃ e, (∀ budget > ws.length + 1, ((env.derive budget d).run after).1 = .error e ∧
        ((env.converterFor budget d).run after).1 = .error e) ∧
      e.type? = some (.described (ws.head?.getD leaf)) ∧ e.root = .unhandled leaf none ∧
      (e.type? = some (.described leaf) ↔ ws = []) := by
  intro after hregistry
  have hleaf := hchain.innermost
  obtain ⟨known, hkept⟩ := (kept_of_derived_eq_empty env
    (HasLeaf env (s.registry.converterOf? env)) hnew).hasLeaf_run steps
  have hnone : known leaf = none := by rw [← hkept.registry leaf hleaf.2, hregistry]
  refine ⟨unhandledThrough leaf (w :: ws), fun budget hbudget => ?_, rfl,
    root_unhandledThrough leaf (w :: ws), ?_⟩
  · have hwp := hchain.wp_converterFor_unhandled hkept hnone hbudget
    have hresult : ((env.converterFor budget d).run after).1 =
        .error (unhandledThrough leaf (w :: ws)) := by
      cases hrun : (env.converterFor budget d).run after with
      | mk result s' =>
        cases result with
        | ok i => exact (post_of_run hwp hrun).elim
        | error e => exact congrArg _ (fail_of_run hwp hrun)
    have hkind : env.kind d = .wrapper := by
      cases hchain with
      | outer hkind => exact hkind
    rw [derive_of_wrapper hkind]
    exact ⟨hresult, hresult⟩
  · cases hchain with
    | outer _ _ hrest =>
      constructor
      · intro hnames
        have hhead : ws.head?.getD leaf = leaf := by
          injection hnames with hsubject
          injection hsubject
        -- a wrapper at the head would be the innermost type, which is none
        cases hrest with
        | leaf => rfl
        | outer hkind =>
          have heq : Descriptor.nonNull _ = leaf := hhead
          subst heq
          exact absurd hkind hleaf.2
      · rintro rfl
        rfl

open ApiShape.Sample Environment.Sample

/-- Nothing handles the key that a lock wraps, which is named, also after whole numbers have been
registered and locks been asked for. -/
theorem derive_unhandled_lock :
    let after :=
      [registerText, .use (.converterFor 9 (classType "Lock"))].foldl (Step.run shop) fresh
    ∃ e, ((shop.derive 9 (classType "Lock")).run after).1 = .error e ∧
      e.type? = some (.described (classType "Key")) := by
  intro after
  obtain ⟨e, hfails, hnames, -⟩ := derive_unhandled shop fresh rfl
    [registerText, .use (.converterFor 9 (classType "Lock"))] (classType "Lock") (classType "Lock")
    (classType "Key") [] (.outer rfl rfl (.leaf (d := classType "Key") (by decide))) rfl
  exact ⟨e, (hfails 9 (by decide)).1, hnames⟩

/-- **Under two wrappers, a wrapper is named.** Nothing handles the code that a tag wraps, but
deriving a badge, which wraps a tag, fails with an error about tags. -/
theorem unhandled_names_wrapper :
    Wrapping badges (classType "Badge") [classType "Badge", classType "Tag"] (classType "Code") ∧
      fresh.registry.converterOf? badges (classType "Code") = none ∧
      ∃ e, ((badges.derive 9 (classType "Badge")).run fresh).1 = .error e ∧
        e.type? = some (.described (classType "Tag")) ∧
        e.type? ≠ some (.described (classType "Code")) := by
  refine ⟨wrapping_badge, rfl, _, rfl, rfl, ?_⟩
  intro hnames
  injection hnames with hsubject
  injection hsubject with hsame
  exact absurd hsame (by decide)

end Environment

end ApiShape
