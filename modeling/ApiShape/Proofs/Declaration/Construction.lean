import ApiShape.Declaration.Record
import ApiShape.Proofs.Action

/-!
# What generated constructors make

The constructor that dataclasses and named tuples are given puts the values that it is called with
under the names of the fields, and defaults in the other places, before the class finishes the
fields.

* `lookup_initialFields` — an instance starts with the values that its constructor was given.
* `exists_of_initialFields_error` — nothing but the factory of a default that is asked for can fail.
* **`RecordDef.construct_error_cases`** — so such a constructor fails where the class refuses the
  fields or a factory fails.
-/

namespace ApiShape

open ApiShape.Action

/-- A field that is an argument starts with the value that is given for it. -/
theorem initial?_of_lookup {decl : FieldDecl} (hsettable : decl.settable = true)
    {values : List (String × Value)} {v : Value} (hv : values.lookup decl.name = some v) :
    decl.initial? values = .ok (some v) := by
  rw [FieldDecl.initial?, if_pos hsettable, hv]

/-- Nothing but the factory of a default that is asked for can fail. -/
theorem default_of_initial?_error {decl : FieldDecl} {values : List (String × Value)} {e : Error}
    (h : decl.initial? values = .error e) :
    decl.default = some (.factory (.error e)) ∧
      (decl.settable = true → values.lookup decl.name = none) := by
  unfold FieldDecl.initial? at h
  split at h
  · cases h
  · next default hgiven hdefault =>
    refine ⟨?_, fun hsettable => by rwa [if_pos hsettable] at hgiven⟩
    rcases default.value_cases with ⟨v, hvalue⟩ | ⟨e', rfl⟩
    · rw [hvalue] at h
      cases h
    · cases h
      exact hdefault
  · cases h

/-- An instance starts with the values that its constructor was given. -/
theorem lookup_initialFields {decls : List FieldDecl} (hnames : (decls.map (·.name)).Nodup)
    {values made : List (String × Value)} (hmade : initialFields decls values = .ok made)
    {decl : FieldDecl} (hdecl : decl ∈ decls) (hsettable : decl.settable = true) {v : Value}
    (hv : values.lookup decl.name = some v) : made.lookup decl.name = some v := by
  induction decls generalizing made with
  | nil => cases hdecl
  | cons f rest ih =>
    rw [List.map_cons, List.nodup_cons] at hnames
    obtain ⟨first, hfirst, htail⟩ := bind_eq_ok_iff.1 hmade
    obtain ⟨more, hmore, hpure⟩ := bind_eq_ok_iff.1 htail
    cases hpure
    rcases List.mem_cons.1 hdecl with rfl | hrest
    · -- the field itself comes first
      cases (initial?_of_lookup hsettable hv).symm.trans hfirst
      exact List.lookup_cons_self
    · -- a field before it has another name, so it is passed over
      have hne : (decl.name == f.name) = false := by
        refine beq_eq_false_iff_ne.2 fun heq => hnames.1 ?_
        exact heq ▸ List.mem_map.2 ⟨decl, hrest, rfl⟩
      have hlookup := ih hnames.2 hmore hrest
      cases first with
      | none => exact hlookup
      | some w =>
        show List.lookup decl.name ((f.name, w) :: more) = some v
        rw [List.lookup_cons, hne]
        exact hlookup

/-- If the fields cannot be made, the factory of a default has failed. -/
theorem exists_of_initialFields_error {decls : List FieldDecl} {values : List (String × Value)}
    {e : Error} (h : initialFields decls values = .error e) :
    ∃ decl ∈ decls, decl.default = some (.factory (.error e)) ∧
      (decl.settable = true → values.lookup decl.name = none) := by
  induction decls with
  | nil => cases h
  | cons f rest ih =>
    rcases bind_eq_error_iff.1 h with hfirst | ⟨first, -, htail⟩
    · exact ⟨f, List.mem_cons_self, default_of_initial?_error hfirst⟩
    · rcases bind_eq_error_iff.1 htail with hrest | ⟨more, -, hpure⟩
      · obtain ⟨decl, hdecl, hfails⟩ := ih hrest
        exact ⟨decl, List.mem_cons_of_mem f hdecl, hfails⟩
      · cases hpure

namespace RecordDef

variable {r : RecordDef} {finish : Finish} {origin : Origin} {values : List (String × Value)}

/-- A class with the generated constructor makes an instance of its fields, once these have been
finished. -/
theorem construct_generated (hmakes : r.constructor = .generated finish) :
    r.construct origin values = initialFields r.fields values >>= fun fields =>
      (finish fields).map (.record ⟨origin, r.form, r.hashable⟩) := by
  rw [construct, hmakes, Constructor.generated]
  cases initialFields r.fields values with
  | error e => rfl
  | ok fields =>
    show finish fields >>= _ = (finish fields).map _
    cases finish fields <;> rfl

theorem construct_error_cases (hmakes : r.constructor = .generated finish) {e : Error}
    (h : r.construct origin values = .error e) :
    (∃ fields, finish fields = .error e) ∨
      ∃ decl ∈ r.fields, decl.default = some (.factory (.error e)) := by
  rw [construct_generated hmakes] at h
  rcases bind_eq_error_iff.1 h with hinitial | ⟨fields, -, hfinish⟩
  · obtain ⟨decl, hdecl, hfails, -⟩ := exists_of_initialFields_error hinitial
    exact .inr ⟨decl, hdecl, hfails⟩
  · exact .inl ⟨fields, map_eq_error_iff.1 hfinish⟩

end RecordDef

end ApiShape
