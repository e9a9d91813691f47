import ApiShape.Proofs.Schema.Faithful

/-!
# Collisions and the table of named schemas

A builder whose names may change their schemas notes each change as a collision. What the collisions
say of the table is relative to the builds that noted them: a build that fails takes its bodies
back, but the collisions that it has noted stay.

* **`Accounts`** — collisions that tell how a table has come from another one.
* **`wp_build_accounts`** — those that a successful build notes account for the new table; a failed
  build leaves the old table, whatever it notes.
* **`buildAll_latest_collision`** — after any run, the last collision of a name noted by a build
  that did not fail tells the entry of the name.
* **`failed_build_keeps_collision`** — a failed build can make the last collision tell of a schema
  that is not in the table.
-/

namespace ApiShape

namespace Blueprint

open ApiShape.Action

variable {bp : Blueprint} {noted more : List Collision} {before between after : Table String Schema}
  {name : String}

/-! ## The last collision of a name -/

/-- The last collision of the name. -/
def latest (collisions : List Collision) (name : String) : Option Collision :=
  collisions.reverse.find? (·.name = name)

/-- The last collision of a name is the last one of the later list, if that has one. -/
theorem latest_append :
    latest (noted ++ more) name = (latest more name).or (latest noted name) := by
  rw [latest, List.reverse_append, List.find?_append, latest, latest]

theorem latest_singleton (c : Collision) :
    latest [c] name = if c.name = name then some c else none := by
  by_cases hname : c.name = name
  · simp [latest, hname]
  · simp [latest, hname]

/-! ## Tables and collisions -/

/-- The collisions tell how the second table has come from the first: the last one of a name has
left its replacement there, and an entry without a collision has stayed. -/
structure Accounts (noted : List Collision) (before after : Table String Schema) : Prop where
  replaced : ∀ name c, latest noted name = some c → after.get? name = some c.replacement
  kept : ∀ name, latest noted name = none →
    ∀ e, before.get? name = some e → after.get? name = some e

theorem Accounts.refl (table : Table String Schema) : Accounts [] table table where
  replaced _ _ h := nomatch h
  kept _ _ _ h := h

/-- Collisions noted one after the other tell of both changes. -/
theorem Accounts.trans (h : Accounts noted before between) (h' : Accounts more between after) :
    Accounts (noted ++ more) before after where
  replaced name c hlast := by
    rw [latest_append] at hlast
    cases hmore : latest more name with
    | some c' =>
      rw [hmore, Option.some_or, Option.some.injEq] at hlast
      rw [← hlast]
      exact h'.replaced name c' hmore
    | none =>
      -- nothing has been noted since, so the entry has stayed
      rw [hmore, Option.none_or] at hlast
      exact h'.kept name hmore _ (h.replaced name c hlast)
  kept name hnone e hentry := by
    rw [latest_append, Option.or_eq_none_iff] at hnone
    exact h'.kept name hnone.1 e (h.kept name hnone.2 e hentry)

/-- A new entry needs no collision. -/
theorem Accounts.set (schema : Schema) (hnew : before.get? name = none) :
    Accounts [] before (before.set name schema) where
  replaced _ _ h := nomatch h
  kept other _ e hentry := by
    have hother : name ≠ other := by
      rintro rfl
      rw [hnew] at hentry
      cases hentry
    rw [Table.get?_set, if_neg hother]
    exact hentry

/-- A schema that takes the place of another one needs a collision. -/
theorem Accounts.replace (c : Collision) :
    Accounts [c] before (before.set c.name c.replacement) where
  replaced name c' hlast := by
    rw [latest_singleton] at hlast
    split at hlast
    · next hname =>
      cases hlast
      rw [Table.get?_set, if_pos hname]
    · cases hlast
  kept name hnone e hentry := by
    rw [latest_singleton] at hnone
    split at hnone
    · cases hnone
    · next hname =>
      rw [Table.get?_set, if_neg hname]
      exact hentry

/-! ## Builds -/

/-- From `s` to `s'`, collisions have been noted that account for the table. -/
def Accounted (s s' : State) : Prop :=
  ∃ noted, s'.collisions = s.collisions ++ noted ∧ Accounts noted s.schemas s'.schemas

variable {s s₁ s' : State}

theorem Accounted.refl (s : State) : Accounted s s :=
  ⟨[], (List.append_nil _).symm, .refl _⟩

/-- What two actions note one after the other tells of both. -/
theorem Accounted.trans (h : Accounted s s₁) (h' : Accounted s₁ s') : Accounted s s' := by
  obtain ⟨noted, hnoted, haccounts⟩ := h
  obtain ⟨more, hmore, haccounts'⟩ := h'
  exact ⟨noted ++ more, by rw [hmore, hnoted, List.append_assoc], haccounts.trans haccounts'⟩

/-- Storing a body notes a collision exactly if it replaces another body. -/
theorem wp_store_accounted (hlax : bp.strictNames = false) (name : String) (schema : Schema)
    (s : State) :
    wp (bp.store name schema) (fun _ s' => Accounted s s') (fun _ s' => Accounted s s') s := by
  refine wp_store ?_ ?_ ?_
  · intro hnew journal
    exact ⟨[], (List.append_nil _).symm, .set schema hnew⟩
  · exact fun _ _ _ => .refl s
  · intro existing _ _
    refine ⟨fun hstrict => ?_, fun _ journal => ⟨_, rfl, .replace ⟨name, existing, schema⟩⟩⟩
    rw [hlax] at hstrict
    cases hstrict

/-- **A build that succeeds notes collisions that account for the table. One that fails leaves the
table as it was, and may have noted collisions all the same.** -/
theorem wp_build_accounts (hlax : bp.strictNames = false) (d : Descriptor) (s : State) :
    wp (bp.build d) (fun _ s' => Accounted s s')
      (fun _ s' => s.collisions <+: s'.collisions ∧ s'.schemas = s.schemas) s := by
  have hsynthesise : wp (bp.synthesise bp.budget d) (fun _ s' => Accounted s s')
      (fun _ s' => Accounted s s') s := by
    refine wp_keeps (p := Accounted s) (fun _ _ h => h) (fun _ _ h => h) ?_ bp.budget d s (.refl s)
    intro s₁ name schema h
    exact wp_mono (wp_store_accounted hlax name schema s₁) (fun _ _ h' => h.trans h')
      fun _ _ h' => h.trans h'
  rw [build, wp_bind, wp_get, wp_onError]
  refine wp_mono hsynthesise (fun _ _ h => h) ?_
  rintro e s' ⟨noted, hnoted, -⟩
  rw [wp_modify]
  exact ⟨⟨noted, hnoted.symm⟩, rfl⟩

/-! ## Runs of builds -/

/-- The collisions that a run of builds notes, each with whether the build that noted it
succeeds. -/
def notes (bp : Blueprint) : List Descriptor → State → List (Collision × Bool)
  | [], _ => []
  | d :: ds, s =>
    let built := (bp.build d).run s
    (built.2.collisions.drop s.collisions.length).map (·, built.1.isOk) ++ bp.notes ds built.2

/-- The collisions noted by builds that succeed. -/
def standing (notes : List (Collision × Bool)) : List Collision := (notes.filter (·.2)).map (·.1)

/-- The standing collisions of two runs stand one after the other. -/
theorem standing_append (xs ys : List (Collision × Bool)) :
    standing (xs ++ ys) = standing xs ++ standing ys := by
  rw [standing, List.filter_append, List.map_append, standing, standing]

theorem standing_map_true (cs : List Collision) : standing (cs.map (·, true)) = cs := by
  simp [standing, List.filter_map, Function.comp_def]

theorem standing_map_false (cs : List Collision) : standing (cs.map (·, false)) = [] := by
  simp [standing, List.filter_map, Function.comp_def]

/-- **One build**, in terms of what it notes: its notes are what is new among the collisions, and
those that stand account for the table. -/
theorem build_notes (hlax : bp.strictNames = false) (d : Descriptor) (s : State) :
    let built := (bp.build d).run s
    let notes := (built.2.collisions.drop s.collisions.length).map (·, built.1.isOk)
    built.2.collisions = s.collisions ++ notes.map (·.1) ∧
    Accounts (standing notes) s.schemas built.2.schemas := by
  have hbuild := wp_build_accounts hlax d s
  unfold wp at hbuild
  have hfst : ∀ (b : Bool) (cs : List Collision), (cs.map (·, b)).map (·.1) = cs := by
    intro b cs
    simp [Function.comp_def]
  cases hrun : (bp.build d).run s with
  | mk result s' =>
    rw [hrun] at hbuild
    intro built notes
    cases result with
    -- a build that ended keeps its notes, and they account for what it bound anew
    | ok schema =>
      obtain ⟨noted, hnoted, haccounts⟩ := hbuild
      have hnotes : notes = noted.map (·, true) := by
        show (s'.collisions.drop _).map _ = _
        rw [hnoted, List.drop_left]
        rfl
      rw [hnotes, hfst, standing_map_true]
      exact ⟨hnoted, haccounts⟩
    -- one that failed keeps its notes too, but the table is as it was before
    | error e =>
      obtain ⟨⟨noted, hnoted⟩, hschemas⟩ := hbuild
      have hnotes : notes = noted.map (·, false) := by
        show (s'.collisions.drop _).map _ = _
        rw [← hnoted, List.drop_left]
        rfl
      rw [hnotes, hfst, standing_map_false]
      refine ⟨hnoted.symm, ?_⟩
      show Accounts [] s.schemas s'.schemas
      rw [hschemas]
      exact .refl _

/-- Induction on the run: builds follow each other as accounts do. -/
theorem buildAll_notes (hlax : bp.strictNames = false) (ds : List Descriptor) : ∀ s : State,
    (bp.buildAll ds s).2.collisions = s.collisions ++ (bp.notes ds s).map (·.1) ∧
    Accounts (standing (bp.notes ds s)) s.schemas (bp.buildAll ds s).2.schemas := by
  induction ds with
  | nil => exact fun s => ⟨(List.append_nil _).symm, .refl _⟩
  | cons d ds ih =>
    intro s
    obtain ⟨hfirst, haccounts⟩ := build_notes hlax d s
    obtain ⟨hrest, haccounts'⟩ := ih ((bp.build d).run s).2
    rw [notes, standing_append, List.map_append]
    refine ⟨?_, haccounts.trans haccounts'⟩
    rw [← List.append_assoc, ← hfirst]
    exact hrest

/-- Where every collision of a name stands, the last that stands is the last. -/
theorem latest_standing {notes : List (Collision × Bool)}
    (h : ∀ note ∈ notes, note.1.name = name → note.2 = true) :
    latest (standing notes) name = latest (notes.map (·.1)) name := by
  induction notes with
  | nil => rfl
  | cons note notes ih =>
    have hrest := ih fun other hother => h other (List.mem_cons_of_mem _ hother)
    rw [← List.singleton_append, standing_append, List.map_append, latest_append, latest_append,
      hrest]
    obtain ⟨c, stands⟩ := note
    cases stands with
    | true => rfl
    | false =>
      -- a collision that does not stand is one of another name
      have hname : ¬c.name = name := fun hname => nomatch h (c, false) List.mem_cons_self hname
      congr 1
      show latest [] name = latest [c] name
      rw [latest_singleton, if_neg hname]
      rfl

/-- **The collisions describe the table.** After any run of builds from a builder that has noted no
collision, where names may change their schemas, the last collision of a name that was noted by a
build that did not fail tells the entry of the name. So the last collision of a name tells it,
unless a build that failed has noted one of the name. -/
theorem buildAll_latest_collision (bp : Blueprint) (hlax : bp.strictNames = false)
    (ds : List Descriptor) (s : State) (hnew : s.collisions = []) :
    let after := (bp.buildAll ds s).2
    let notes := bp.notes ds s
    after.collisions = notes.map (·.1) ∧
    (∀ name c, latest (standing notes) name = some c →
      after.schemas.get? name = some c.replacement) ∧
    ∀ name c, latest after.collisions name = some c →
      (∀ note ∈ notes, note.1.name = name → note.2 = true) →
      after.schemas.get? name = some c.replacement := by
  intro after notes
  obtain ⟨hcollisions, haccounts⟩ := buildAll_notes hlax ds s
  rw [hnew, List.nil_append] at hcollisions
  refine ⟨hcollisions, haccounts.replaced, fun name c hlast hstand => ?_⟩
  refine haccounts.replaced name c ?_
  rw [latest_standing hstand, ← hcollisions]
  exact hlast

/-! ## Crates

Types that are all given one name, and among them one that cannot be built. -/

open ApiShape.Sample

namespace Sample

/-- Labels, sizes, and crates, which have a size and a key that nothing handles; all are called
things. -/
def crates : Blueprint where
  env := ⟨[
    { ref := classNamed "Key", shape := .plain },
    dataclass "Label" [{ name := "text", type := text }],
    dataclass "Size" [{ name := "width", type := text }],
    dataclass "Crate" [{ name := "size", type := classExpr "Size" },
      { name := "key", type := classExpr "Key" }]]⟩
  namer _ := "Thing"

/-- The bodies of labels and of sizes. -/
def labelBody : Schema := .object [("text", .string)] ["text"]

def sizeBody : Schema := .object [("width", .string)] ["width"]

end Sample

open Blueprint.Sample

/-- A label and a size collide, and the size stays; the crate, which fails, notes nothing new. -/
theorem buildAll_latest_collision_crate :
    let ds := [classType "Label", classType "Size", classType "Crate"]
    let after := (crates.buildAll ds textual).2
    after.collisions = [⟨"Thing", labelBody, sizeBody⟩] ∧
    after.schemas.get? "Thing" = some sizeBody := by
  intro ds after
  have hresult := buildAll_latest_collision crates rfl ds textual rfl
  have hnotes : crates.notes ds textual =
      [(⟨"Thing", labelBody, sizeBody⟩, true)] := rfl
  rw [hnotes] at hresult
  exact ⟨hresult.1, hresult.2.1 "Thing" ⟨"Thing", labelBody, sizeBody⟩ rfl⟩

/-- **A failed build keeps the collision that it noted.** The crate's size has taken the place of
the label, and has been taken back with the crate; the collision still says that it is there. -/
theorem failed_build_keeps_collision :
    let ds := [classType "Label", classType "Crate"]
    let after := (crates.buildAll ds textual).2
    crates.strictNames = false ∧
    latest after.collisions "Thing" = some ⟨"Thing", labelBody, sizeBody⟩ ∧
    after.schemas.get? "Thing" = some labelBody ∧
    ¬∀ name c, latest after.collisions name = some c →
      after.schemas.get? name = some c.replacement := by
  intro ds after
  have hlast : latest after.collisions "Thing" = some ⟨"Thing", labelBody, sizeBody⟩ := rfl
  have hentry : after.schemas.get? "Thing" = some labelBody := rfl
  refine ⟨rfl, hlast, hentry, fun hclaim => ?_⟩
  have hother := hclaim "Thing" _ hlast
  rw [hentry] at hother
  simp [labelBody, sizeBody] at hother

end Blueprint

end ApiShape
