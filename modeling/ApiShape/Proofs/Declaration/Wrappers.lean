import ApiShape.Declaration.Declare
import ApiShape.Proofs.Converter.Derivation

/-!
# Declared wrappers have one field

A class is refused as a wrapper unless its constructor takes one argument. That is checked when the
class is declared, and looked up again whenever it is unwrapped.

* **`Environment.Declared`** — the environments that declarations lead to.
* `Declaration.Sound` — what the checks leave true of a declaration; `Declared.sound` carries it
  through all of them.
* **`Environment.Declared.isUnhandled_of_unwrap`** — so a declared wrapper can be unwrapped, unless
  it wraps a type that nothing handles.
-/

namespace ApiShape

open ApiShape.Action

variable {env env' : Environment}

/-- Declarations, one after the other, have led to the environment. -/
inductive Environment.Declared : Environment → Prop
  | empty : Declared {}
  | declareClass {env env' : Environment} {spec : ClassSpec} {marks : Marks} (henv : Declared env)
      (h : env.declareClass spec marks = .ok env') : Declared env'
  | declareEnumeration {env env' : Environment} {ref : ClassRef} {e : Enumeration} {marks : Marks}
      (henv : Declared env) (h : env.declareEnumeration ref e marks = .ok env') : Declared env'
  | declareNewtype {env : Environment} (ref : ClassRef) (of : TypeExpr) (henv : Declared env) :
      Declared (env.declareNewtype ref of)

/-- The constructor takes all fields of a model as arguments. -/
def RecordDef.TakesAll (r : RecordDef) : Prop := r.form = .model → ∀ f ∈ r.fields, f.settable = true

/-- The constructor of a wrapper takes one argument, and that of a model all its fields. -/
structure Declaration.Sound (decl : Declaration) : Prop where
  takesAll : ∀ r, decl.record? = some r → r.TakesAll
  oneField : decl.isWrapper = true →
    ∃ r, decl.record? = some r ∧ (r.fields.filter (·.settable)).length = 1

/-! ## Looking up declarations -/

/-- A declaration put at the end is found by its name, unless there is one of this name before
it. -/
theorem Environment.find?_append {env : Environment} {decl found : Declaration} {c : ClassRef}
    (h : Environment.find? ⟨env.declarations ++ [decl]⟩ c = some found) :
    env.find? c = some found ∨ env.find? c = none ∧ decl.ref.id = c.id ∧ found = decl := by
  unfold find? at h ⊢
  rw [List.find?_append] at h
  cases hfind : env.declarations.find? (·.ref.id == c.id) with
  | some other =>
    rw [hfind] at h
    exact .inl h
  | none =>
    rw [hfind, Option.none_or] at h
    rw [List.find?_singleton] at h
    split at h
    · next hid =>
      cases h
      exact .inr ⟨rfl, eq_of_beq hid, rfl⟩
    · cases h

/-- Records are looked up among sound declarations, or known to every program. -/
theorem Environment.takesAll_of_record? (hsound : ∀ c decl, env.find? c = some decl → decl.Sound)
    (origin : Origin) {r : RecordDef} (h : env.record? origin = some r) : r.TakesAll := by
  cases origin with
  | named c =>
    cases c with
    -- built-in records are no models
    | builtin b =>
      have hform : r.form = .dataclass := by
        simp only [record?] at h
        unfold builtinRecord? at h
        split at h <;> cases h <;> rfl
      intro hmodel
      rw [hform] at hmodel
      cases hmodel
    | declared c =>
      obtain ⟨decl, hfind, hrecord⟩ := Option.bind_eq_some_iff.1 h
      exact (hsound c decl hfind).takesAll r hrecord
  -- the fields of a specialisation are those of its class, with other types
  | specialised c args =>
    obtain ⟨decl, hfind, hrest⟩ := Option.bind_eq_some_iff.1 h
    obtain ⟨generic, hrecord, hpure⟩ := Option.bind_eq_some_iff.1 hrest
    cases hpure
    intro hmodel f hf
    obtain ⟨g, hg, rfl⟩ := List.mem_map.1 hf
    exact (hsound c decl hfind).takesAll generic hrecord hmodel g hg
  | _ => cases h

/-! ## What a class declares -/

/-- Fields that are merged are inherited or own ones. -/
theorem mem_mergeFields {own : List FieldDecl} {f : FieldDecl} :
    ∀ {inherited : List FieldDecl}, f ∈ mergeFields inherited own → f ∈ inherited ∨ f ∈ own := by
  induction own with
  | nil => exact fun h => .inl h
  | cons g own ih =>
    intro inherited h
    rcases ih h with hput | hown
    -- the first of the own fields takes the place of one of its name, or the last place
    · dsimp only at hput
      split at hput
      · obtain ⟨k, hk, rfl⟩ := List.mem_map.1 hput
        split
        · exact .inr List.mem_cons_self
        · exact .inl hk
      · rcases List.mem_append.1 hput with hold | hnew
        · exact .inl hold
        · exact .inr (List.mem_cons.2 (.inl (List.mem_singleton.1 hnew)))
    · exact .inr (List.mem_cons_of_mem g hown)

/-- The fields of a record are its own or those of a parent. -/
theorem mem_foldl_mergeFields {f : FieldDecl} {records : List RecordDef} :
    ∀ {base : List FieldDecl},
      f ∈ records.foldl (fun fields r => mergeFields fields r.fields) base →
      f ∈ base ∨ ∃ r ∈ records, f ∈ r.fields := by
  induction records with
  | nil => exact fun h => .inl h
  | cons r records ih =>
    intro base h
    rcases ih h with hmerged | ⟨r', hr', hf⟩
    · rcases mem_mergeFields hmerged with hbase | hf
      · exact .inl hbase
      · exact .inr ⟨r, List.mem_cons_self, hf⟩
    · exact .inr ⟨r', List.mem_cons_of_mem r hr', hf⟩

/-- A declared record takes all its fields, if its parents do. -/
theorem takesAll_of_declaredRecord {spec : ClassSpec} {form : RecordForm}
    {inherited : List RecordDef} {r : RecordDef} (hinherited : ∀ r ∈ inherited, r.TakesAll)
    (h : Environment.declaredRecord spec form inherited = .ok r) : r.TakesAll := by
  have hr : r.form = form ∧ r.fields = mergeFields
      ((inherited.filter (·.form = form)).reverse.foldl
        (fun fields r => mergeFields fields r.fields) [])
      (spec.fields.map (·.knownTo form)) := by
    unfold Environment.declaredRecord at h
    simp only at h
    split at h
    · obtain ⟨-, -, h⟩ := bind_eq_ok_iff.1 h
      split at h
      -- a class is refused over parents that are frozen otherwise than it is
      · split at h
        · cases h
        · split at h
          · cases h
          · obtain ⟨-, -, h⟩ := bind_eq_ok_iff.1 h
            cases h
            exact ⟨rfl, rfl⟩
      · obtain ⟨-, -, h⟩ := bind_eq_ok_iff.1 h
        cases h
        exact ⟨rfl, rfl⟩
    · cases h
      exact ⟨rfl, rfl⟩
  obtain ⟨rfl, hfields⟩ := hr
  intro hmodel f hf
  rw [hfields] at hf
  rcases mem_mergeFields hf with hbase | hown
  · rcases mem_foldl_mergeFields hbase with hnil | ⟨r', hr', hf⟩
    · cases hnil
    · obtain ⟨hmem, hform⟩ := List.mem_filter.1 (List.mem_reverse.1 hr')
      exact hinherited r' hmem ((of_decide_eq_true hform).trans hmodel) f hf
  · obtain ⟨g, -, rfl⟩ := List.mem_map.1 hown
    rw [hmodel]
    rfl

namespace Environment

/-- The records of the parents are looked up. -/
theorem takesAll_of_parents (hsound : ∀ c decl, env.find? c = some decl → decl.Sound)
    {parents : List TypeExpr} : ∀ r ∈ parents.filterMap env.parentRecord?, r.TakesAll := by
  intro r hr
  obtain ⟨a, -, ha⟩ := List.mem_filterMap.1 hr
  cases a with
  | named c => exact takesAll_of_record? hsound (.named c) ha
  | applied c args => exact takesAll_of_record? hsound (.named c) ha
  | specialised c args => exact takesAll_of_record? hsound (.specialised c args) ha
  | _ => cases ha

/-- What has been checked of a class that is put at the end of the declarations. -/
theorem exists_of_checked {spec : ClassSpec} {marks : Marks} {decl : Declaration}
    (href : decl.ref = spec.ref) (hmark : decl.isWrapper = marks.wrapper)
    (htakes : ∀ r, decl.record? = some r → r.TakesAll)
    (h : (let checked : Environment := ⟨env.declarations ++ [decl]⟩
      let count := checked.declaredFieldCount (.named (.declared spec.ref))
      if marks.wrapper && count != some 1 then
        Except.error (Error.fault (.notOneField spec.ref.name count))
        else .ok checked) = .ok env') :
    ∃ decl : Declaration, env' = ⟨env.declarations ++ [decl]⟩ ∧ decl.ref = spec.ref ∧
      (∀ r, decl.record? = some r → r.TakesAll) ∧
      (decl.isWrapper = true →
        env'.declaredFieldCount (.named (.declared spec.ref)) = some 1) := by
  simp only at h
  split at h
  · cases h
  · next hcount =>
    cases h
    refine ⟨decl, rfl, href, htakes, fun hwrapper => ?_⟩
    rw [← hmark, hwrapper] at hcount
    simpa using hcount

/-- Declaring a class adds one declaration. Its record takes all its fields, and it has one field if
it is marked as a wrapper. -/
theorem exists_of_declareClass (hsound : ∀ c decl, env.find? c = some decl → decl.Sound)
    {spec : ClassSpec} {marks : Marks} (h : env.declareClass spec marks = .ok env') :
    ∃ decl : Declaration, env' = ⟨env.declarations ++ [decl]⟩ ∧ decl.ref = spec.ref ∧
      (∀ r, decl.record? = some r → r.TakesAll) ∧
      (decl.isWrapper = true →
        env'.declaredFieldCount (.named (.declared spec.ref)) = some 1) := by
  unfold declareClass at h
  simp only at h
  split at h
  -- a class that is no record of its own is one if its first parent is
  · refine exists_of_checked rfl rfl (fun r hr => ?_) h
    cases hrecords : (spec.parents.filterMap env.parentRecord?).head? with
    | none =>
      simp only [Declaration.record?, hrecords] at hr
      cases hr
    | some head =>
      simp only [Declaration.record?, hrecords] at hr
      cases hr
      exact takesAll_of_parents hsound r (List.mem_of_mem_head? hrecords)
  · obtain ⟨r, hrecord, hrest⟩ := bind_eq_ok_iff.1 h
    refine exists_of_checked rfl rfl (fun r' hr => ?_) hrest
    cases hr
    exact takesAll_of_declaredRecord (takesAll_of_parents hsound) hrecord

/-- The one argument that is counted is that of the declaration itself, as there is none of its name
before it. -/
theorem oneField_of_count {decl : Declaration} (hnone : env.find? decl.ref = none)
    (hcount : declaredFieldCount ⟨env.declarations ++ [decl]⟩ (.named (.declared decl.ref)) =
      some 1) :
    ∃ r, decl.record? = some r ∧ (r.fields.filter (·.settable)).length = 1 := by
  have hfind : find? ⟨env.declarations ++ [decl]⟩ decl.ref = some decl := by
    unfold find? at hnone ⊢
    rw [List.find?_append, hnone, Option.none_or, List.find?_singleton, if_pos (beq_self_eq_true _)]
  have hrecord : record? ⟨env.declarations ++ [decl]⟩ (.named (.declared decl.ref)) =
      decl.record? := by
    show (find? _ decl.ref).bind (·.record?) = _
    rw [hfind]
    rfl
  simp only [declaredFieldCount, Option.bind_some, hrecord] at hcount
  split at hcount
  · next heq => cases heq
  · next r hr _ => exact ⟨r, hr, Option.some.inj hcount⟩
  · cases hcount

/-- **All declarations that are found are sound.** Induction on the declarations; one that is put at
the end of the others changes nothing of what is found among them. -/
theorem Declared.sound (h : env.Declared) : ∀ c decl, env.find? c = some decl → decl.Sound := by
  induction h with
  | empty =>
    intro c decl hfind
    cases hfind
  -- a class that is declared anew is checked, and finds the earlier ones unchanged
  | @declareClass env env' spec marks _ h ih =>
    obtain ⟨decl, rfl, href, htakes, hcount⟩ := exists_of_declareClass ih h
    intro c found hfind
    rcases find?_append hfind with hold | ⟨hnone, hid, rfl⟩
    · exact ih c found hold
    · have hfresh : env.find? found.ref = none := by
        unfold find? at hnone ⊢
        rw [hid]
        exact hnone
      refine ⟨htakes, fun hwrapper => oneField_of_count hfresh ?_⟩
      rw [href]
      exact hcount hwrapper
  -- enumerations and new types have no fields
  | @declareEnumeration env env' ref e marks _ h ih =>
    unfold Environment.declareEnumeration at h
    split at h
    · cases h
    · cases h
      intro c found hfind
      rcases find?_append hfind with hold | ⟨-, -, rfl⟩
      · exact ih c found hold
      · exact ⟨by rintro r ⟨⟩, by rintro ⟨⟩⟩
  | declareNewtype ref of _ ih =>
    intro c found hfind
    rcases find?_append hfind with hold | ⟨-, -, rfl⟩
    · exact ih c found hold
    · exact ⟨by rintro r ⟨⟩, by rintro ⟨⟩⟩

/-! ## Unwrapping -/

variable {d : Descriptor}

/-- A type of kind wrapper is declared as such. -/
theorem exists_decl_of_wrapper (hkind : env.kind d = .wrapper) :
    ∃ c decl, d.origin = .named (.declared c) ∧ env.find? c = some decl ∧ decl.kind = .wrapper := by
  obtain ⟨origin, args, nullable⟩ := d
  cases origin with
  | named c =>
    cases c with
    | builtin b =>
      simp only [kind] at hkind
      split at hkind <;> cases hkind
    | declared c =>
      simp only [kind] at hkind
      cases hfind : env.find? c with
      | none =>
        rw [hfind] at hkind
        cases hkind
      | some decl =>
        rw [hfind] at hkind
        exact ⟨c, decl, rfl, hfind, hkind⟩
  | container c =>
    simp only [kind] at hkind
    split at hkind <;> cases hkind
  | _ => cases hkind

/-- A type whose constructor takes one argument has one field. -/
theorem exists_only_of_fields {r : RecordDef} {fields : List Field}
    (hrecord : env.record? d.origin = some r) (htakes : r.TakesAll)
    (hone : (r.fields.filter (·.settable)).length = 1) (h : env.fields d = .ok fields) :
    ∃ only, fields = [only] := by
  have hrecord' : env.record? d.nonNull.origin = some r := hrecord
  refine List.length_eq_one_iff.1 ?_
  unfold Environment.fields at h
  simp only [hrecord'] at h
  split at h
  · cases h
  · split at h
    -- a model counts all its fields, which its constructor takes
    · next hmodel =>
      rw [← (forall₂_of_mapM_ok h).length_eq, ← hone,
        List.filter_eq_self.2 fun f hf => htakes hmodel f hf]
    · split at h
      · cases h
      · rw [← (forall₂_of_mapM_ok h).length_eq]
        exact hone

theorem isWrapper_of_kind {decl : Declaration} {r : RecordDef} (hrecord : decl.record? = some r)
    (hkind : decl.kind = .wrapper) : decl.isWrapper = true := by
  unfold Declaration.record? at hrecord
  split at hrecord
  · next hshape =>
    simp only [Declaration.kind, hshape] at hkind
    split at hkind
    · cases hkind
    · split at hkind
      · next hmark => exact hmark
      · split at hkind <;> cases hkind
  · cases hrecord

/-- **A wrapper of declared classes can be unwrapped**, unless it wraps a type that nothing
handles. -/
theorem Declared.isUnhandled_of_unwrap (h : env.Declared) {e : Error}
    (hkind : env.kind d = .wrapper) (hunwrap : env.unwrap d = .error e) : e.IsUnhandled := by
  rcases error_of_unwrap hkind hunwrap with hunhandled | ⟨-, fields, hfields, hnone⟩
  · exact hunhandled
  obtain ⟨c, decl, horigin, hfind, hdecl⟩ := exists_decl_of_wrapper hkind
  obtain ⟨r, hlookup⟩ := exists_record_of_fields hfields
  have hrecord : decl.record? = some r := by
    rw [horigin] at hlookup
    obtain ⟨decl', hfind', hrecord⟩ := Option.bind_eq_some_iff.1 hlookup
    rwa [Option.some.inj (hfind.symm.trans hfind')]
  have hsound := h.sound c decl hfind
  obtain ⟨r', hrecord', hone⟩ := hsound.oneField (isWrapper_of_kind hrecord hdecl)
  obtain rfl := Option.some.inj (hrecord.symm.trans hrecord')
  obtain ⟨only, honly⟩ := exists_only_of_fields hlookup (hsound.takesAll r hrecord) hone hfields
  exact absurd honly (hnone only)

end Environment

end ApiShape
