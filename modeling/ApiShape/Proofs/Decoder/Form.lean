import ApiShape.Decoder.Body
import ApiShape.Proofs.Declaration.Construction
import ApiShape.Proofs.Decoder.FormFields
import Mathlib.Data.List.Nodup

/-!
# A submitted form is decoded

* `run_readForm` has the values under each name, and `inOrder_of_submitted` binds the fields to
  them.
* **`run_decodeForm`** — so the constructor is called with what was submitted.
* `names_of_dataclass`, `lookup_initialFields` — an instance of a dataclass starts with what its
  constructor was given, each value under the name of its field.
* **`decodeForm_submitted`** — a submitted form is decoded to an instance that holds what was
  submitted, unless its class refuses that or the factory of a default fails.
* `submitted_title_refused` — the class may refuse.
-/

namespace ApiShape.Decoder

open ApiShape.Action ApiShape.Multipart

variable {s : State}

/-! ## The instance -/

/-- Two lists of declarations and fields, one field for each declaration and named after it. -/
theorem names_of_forall₂ {decls : List FieldDecl} {fields : List Field}
    (h : List.Forall₂ (fun decl f => ∃ type, f = decl.toField decl.name type) decls fields) :
    fields.map (·.key) = decls.map (·.name) ∧
      ∀ f ∈ fields, ∃ decl ∈ decls, ∃ type, f = decl.toField decl.name type := by
  induction h with
  | nil => exact ⟨rfl, fun _ hf => (List.not_mem_nil hf).elim⟩
  | @cons decl f decls fields hf _ ih =>
    obtain ⟨type, rfl⟩ := hf
    refine ⟨by rw [List.map_cons, List.map_cons, ih.1, decl.toField_key], fun g hg => ?_⟩
    rcases List.mem_cons.1 hg with rfl | hg
    · exact ⟨decl, List.mem_cons_self, type, rfl⟩
    · obtain ⟨decl', hdecl', hfield⟩ := ih.2 g hg
      exact ⟨decl', List.mem_cons_of_mem decl hdecl', hfield⟩

/-- The fields of a dataclass are those that its constructor takes, each under its own name. -/
theorem names_of_dataclass {env : Environment} {d : Descriptor} {r : RecordDef}
    {fields : List Field} (hrecord : env.record? d.origin = some r) (hform : r.form = .dataclass)
    (hfields : env.fields d = .ok fields) :
    fields.map (·.key) = (r.fields.filter (·.settable)).map (·.name) ∧
      ∀ f ∈ fields, ∃ decl ∈ r.fields.filter (·.settable),
        ∃ type, f = decl.toField decl.name type := by
  unfold Environment.fields at hfields
  simp only at hfields
  split at hfields
  · cases hfields
  · rw [show d.nonNull.origin = d.origin from rfl, hrecord] at hfields
    simp only [hform] at hfields
    split at hfields
    · cases hfields
    · refine names_of_forall₂ ((forall₂_of_mapM_ok hfields).imp fun decl f hf => ?_)
      cases htype : Environment.describeField (env.bindings d.nonNull) decl.type with
      | error e =>
        rw [htype] at hf
        cases hf
      | ok type =>
        rw [htype] at hf
        cases hf
        exact ⟨type, rfl⟩

theorem lookup_of_mem {entries : List (String × Value)} (hkeys : (entries.map (·.1)).Nodup)
    {key : String} {v : Value} (hmem : (key, v) ∈ entries) : entries.lookup key = some v := by
  obtain ⟨before, after, rfl⟩ := List.append_of_mem hmem
  refine List.lookup_eq_some_iff.2 ⟨before, after, rfl, fun p hp => ?_⟩
  rw [List.map_append, List.nodup_append] at hkeys
  have hne := hkeys.2.2 p.1 (List.mem_map.2 ⟨p, hp, rfl⟩) key List.mem_cons_self
  simpa using Ne.symm hne

/-! ## Decoding a form -/

variable {a : TypeExpr} {t : Descriptor} {fields : List Field} {r : RecordDef} {boundary : String}
  {entries : List Entry} {chunks : List (List UInt8)}

/-- **The constructor is called with what was submitted**, unless nothing was submitted for a field
and the factory of its default fails. -/
theorem run_decodeForm (dec : Decoder) (hlimits : dec.limits = {}) (hbudget : 0 < dec.budget)
    (ht : describe a = .ok t) (hobject : dec.env.kind t.nonNull = .object)
    (hfields : dec.env.fields t.nonNull = .ok fields) (hwire : (fields.map (·.wireName)).Nodup)
    (hboundary : IsBoundary boundary) (hfit : ∀ e ∈ entries, e.IsFit boundary)
    (hcontent : ∀ f ∈ fields, Fits f.type (sentUnder entries f.wireName))
    (hchunks : chunks.flatten = assemble boundary (entries.map Entry.outgoing))
    (hreads : s.ReadsTexts) (hspent : ∀ h ∈ s.spent, h < s.opened) :
    ∃ s',
      (∃ arguments,
        (dec.decodeForm a (some (formType boundary)) (pure chunks)).run s =
          (dec.env.construct t.origin (Table.ofList arguments).entries, s') ∧
        arguments.map (·.1) = fields.map (·.key) ∧
        ∀ f ∈ fields, ∃ v, (f.key, v) ∈ arguments ∧
          Holds s' f (sentUnder entries f.wireName) v) ∨
      ∃ e,
        (dec.decodeForm a (some (formType boundary)) (pure chunks)).run s = (.error e, s') ∧
        ∃ f ∈ fields, LacksDefault f (sentUnder entries f.wireName) e := by
  obtain ⟨raw, s₁, hrun, hregistry, hspent₁, hraw⟩ := run_readForm hboundary hfit hchunks s
  have hreads₁ : s₁.ReadsTexts := by
    rw [State.ReadsTexts, hregistry]
    exact hreads
  -- handles are given from `s.opened` on, so none of them has been spent
  have hunread : Unread (openedPairs s.opened entries) [] s₁ := by
    intro p hp _ h hh hmem
    rw [hspent₁] at hmem
    exact absurd (hspent h hmem) (Nat.not_lt.2 (le_of_handle hp hh))
  have hall : ∀ f ∈ fields,
      f.type.nonNull ≠ FormItem.bytes.type → f.wireName ∉ readUnder fields := by
    intro f hf hne hmem
    obtain ⟨g, hg, hname⟩ := List.mem_map.1 hmem
    obtain ⟨hg, hbytes⟩ := List.mem_filter.1 hg
    obtain rfl := List.inj_on_of_nodup_map hwire hg hf hname
    exact hne (of_decide_eq_true hbytes)
  have hbody : decodeForm.readBody dec (some (formType boundary)) (pure chunks) =
      readForm boundary {} (pure chunks) := by
    rw [decodeForm.readBody, boundaryOf_formType hboundary, hlimits]
    rfl
  have hdecode : (dec.decodeForm a (some (formType boundary)) (pure chunks)).run s =
      (dec.decodeRecord t.nonNull raw).run s₁ := by
    rw [decodeForm, if_neg (ne_null_of_object ht hobject), target_eq ht hobject, pure_bind, hbody,
      run_bind, run_onError (reported t.nonNull) (run_failed t.nonNull), hrun]
  rw [hdecode]
  rcases inOrder_of_submitted hbudget hraw hwire hcontent hall hreads₁ hunread
      fun _ _ => List.not_mem_nil with
    ⟨arguments, s', h, hunread', hholds⟩ | ⟨e, s', h, hlacks⟩
  · refine ⟨s', .inl ⟨arguments, (run_decodeRecord_iff hfields).2 (.constructed h), ?_,
      hholds s' hunread'⟩⟩
    cases h with
    | all heach => exact keys_of_each heach
  · exact ⟨_, .inr ⟨e, (run_decodeRecord_iff hfields).2 (.failed h), hlacks⟩⟩

/-- **A submitted form is decoded to an instance that holds what was submitted.** Texts, files and
lists of them are held by the fields of their names, lists in the order of their parts, in whatever
order the parts of different fields come and however the body is cut into chunks. The class has the
generated constructor and may finish the fields of the instance, or refuse them. Nothing else can
fail but the factory of a default that is asked for: that of a field which is no argument, or for
which nothing was submitted. -/
theorem decodeForm_submitted (dec : Decoder) (hlimits : dec.limits = {}) (hbudget : 0 < dec.budget)
    (ht : describe a = .ok t) (hobject : dec.env.kind t.nonNull = .object)
    (hrecord : dec.env.record? t.origin = some r) (hform : r.form = .dataclass) {finish : Finish}
    (hmakes : r.constructor = .generated finish) (hnames : (r.fields.map (·.name)).Nodup)
    (hfields : dec.env.fields t.nonNull = .ok fields) (hwire : (fields.map (·.wireName)).Nodup)
    (hboundary : IsBoundary boundary) (hfit : ∀ e ∈ entries, e.IsFit boundary)
    (hcontent : ∀ f ∈ fields, Fits f.type (sentUnder entries f.wireName))
    (hchunks : chunks.flatten = assemble boundary (entries.map Entry.outgoing))
    (hreads : s.ReadsTexts) (hspent : ∀ h ∈ s.spent, h < s.opened) :
    ∃ s',
      (∃ made,
        (dec.decodeForm a (some (formType boundary)) (pure chunks)).run s =
          ((finish made).map (.record ⟨t.origin, .dataclass, r.hashable⟩), s') ∧
        ∀ f ∈ fields, ∃ v, made.lookup f.name = some v ∧
          Holds s' f (sentUnder entries f.wireName) v) ∨
      ∃ e,
        (dec.decodeForm a (some (formType boundary)) (pure chunks)).run s = (.error e, s') ∧
        ∃ decl ∈ r.fields, decl.default = some (.factory (.error e)) ∧
          (decl.settable = true →
            ∃ f ∈ fields, f.name = decl.name ∧ sentUnder entries f.wireName = []) := by
  obtain ⟨hsame, hdecls⟩ := names_of_dataclass (d := t.nonNull) hrecord hform hfields
  obtain ⟨s', ⟨arguments, hrun, hkeys, hholds⟩ | ⟨e, hrun, f, hf, hnone, hfails⟩⟩ :=
    run_decodeForm dec hlimits hbudget ht hobject hfields hwire hboundary hfit hcontent hchunks
      hreads hspent
  · -- the keys of the arguments are the names of fields of the class
    have hdistinct : (arguments.map (·.1)).Nodup := by
      rw [hkeys, hsame]
      exact (List.filter_sublist.map _).nodup hnames
    rw [hrun, Table.entries_ofList hdistinct, Environment.construct_eq hrecord,
      RecordDef.construct_generated hmakes, hform]
    cases hmade : initialFields r.fields arguments with
    | ok made =>
      refine ⟨s', .inl ⟨made, rfl, fun f hf => ?_⟩⟩
      obtain ⟨v, hv, hheld⟩ := hholds f hf
      obtain ⟨decl, hdecl, type, rfl⟩ := hdecls f hf
      obtain ⟨hmem, hsettable⟩ := List.mem_filter.1 hdecl
      rw [decl.toField_key] at hv
      rw [decl.toField_name]
      exact ⟨v, lookup_initialFields hnames hmade hmem hsettable (lookup_of_mem hdistinct hv),
        hheld⟩
    | error e =>
      refine ⟨s', .inr ⟨e, rfl, ?_⟩⟩
      obtain ⟨decl, hdecl, hdefault, hmissing⟩ := exists_of_initialFields_error hmade
      refine ⟨decl, hdecl, hdefault, fun hsettable => ?_⟩
      -- every argument of the constructor is given
      have hname : decl.name ∈ arguments.map (·.1) := by
        rw [hkeys, hsame]
        exact List.mem_map.2 ⟨decl, List.mem_filter.2 ⟨hdecl, hsettable⟩, rfl⟩
      obtain ⟨⟨name, v⟩, hgiven, rfl⟩ := List.mem_map.1 hname
      cases (lookup_of_mem hdistinct hgiven).symm.trans (hmissing hsettable)
  · obtain ⟨decl, hdecl, type, rfl⟩ := hdecls f hf
    rw [decl.toField_default] at hfails
    exact ⟨s', .inr ⟨e, hrun, decl, (List.mem_filter.1 hdecl).1, hfails,
      fun _ => ⟨_, hf, decl.toField_name _ _, hnone⟩⟩⟩

open ApiShape.Sample

namespace Sample

/-- Albums of a title, a digest, perhaps a cover, notes, and pages, which are called `page` on the
wire. -/
def albums : Decoder where
  env := ⟨[
    dataclass "Album" [
      { name := "title", type := text },
      { name := "digest", type := .named (.builtin .bytes) },
      { name := "cover", type := .union [.named (.builtin .binaryPayload), .null] },
      { name := "notes", type := .sequence .list text },
      { name := "pages", type := .sequence .list (.named (.builtin .binaryPayload)),
        wireAlias := some "page" }]]⟩

/-- An album without a cover. The first page holds the beginning of a marker. -/
def album : List Entry :=
  [⟨"notes", .text "a"⟩,
    ⟨"page", .file
      { filename := "1.png", contentType := some "Image/PNG; q=1", content := [13, 10, 45, 45] }⟩,
    ⟨"title", .text ""⟩,
    ⟨"notes", .text "é"⟩,
    ⟨"digest", .file { filename := "d=", content := [0, 255] }⟩,
    ⟨"page", .file { filename := " ", content := [] }⟩]

/-- Forms of a title of at most three characters. -/
def brief : Decoder where
  env := ⟨[
    recordClass "Brief"
      { form := .dataclass
        fields := [{ name := "title", type := text }]
        own := some (.checked [⟨"title", .shorterThan 3, .value, "title too long"⟩]) }]⟩

end Sample

open Decoder.Sample

/-- An album that is read byte by byte, with the parts of its fields interleaved. -/
theorem decodeForm_submitted_album :
    let type : TypeExpr := classExpr "Album"
    let origin : Origin := .named (.declared (classNamed "Album"))
    let body := assemble "b (1)" (album.map Entry.outgoing)
    let start := Api.start {} fun _ => none
    ∃ fields made s', albums.env.fields { origin } = .ok fields ∧
      fields.map (·.wireName) = ["title", "digest", "cover", "notes", "page"] ∧
      (albums.decodeForm type (some (formType "b (1)")) (pure (body.map fun b => [b]))).run start =
        (.ok (.record ⟨origin, .dataclass, false⟩ made), s') ∧
      ∀ f ∈ fields, ∃ v, made.lookup f.name = some v ∧
        Holds s' f (sentUnder album f.wireName) v := by
  intro type origin body start
  have hboundary : IsBoundary "b (1)" := by decide +kernel
  have hfit : ∀ e ∈ album, e.IsFit "b (1)" := by decide +kernel
  have hchunks : (body.map fun b => [b]).flatten = body := List.flatMap_singleton' body
  obtain ⟨fields, hfields, hwire, hcontent⟩ : ∃ fields, albums.env.fields { origin } = .ok fields ∧
      fields.map (·.wireName) = ["title", "digest", "cover", "notes", "page"] ∧
      ∀ f ∈ fields, Fits f.type (sentUnder album f.wireName) := by
    refine ⟨[_, _, _, _, _], rfl, rfl, ?_⟩
    simp only [List.forall_mem_cons, List.not_mem_nil, false_imp_iff, implies_true, and_true]
    refine ⟨?_, ?_, ?_, ?_, ?_⟩
    · exact Fits.one (i := .text) (x := .text "") false trivial
    · exact Fits.one (i := .bytes) (x := .file _) false trivial
    · exact Fits.none .file
    · exact @Fits.many .text [.text "a", .text "é"] (by decide) (by simp [FormItem.Takes])
    · exact @Fits.many .file [.file _, .file _] (by decide) (by simp [FormItem.Takes])
  have hspent : ∀ h ∈ start.spent, h < start.opened := fun h hh => by cases hh
  obtain ⟨s', ⟨made, hrun, hholds⟩ | ⟨e, -, decl, hdecl, hdefault, -⟩⟩ :=
    decodeForm_submitted albums (a := type) (t := { origin }) rfl (by decide) rfl rfl rfl rfl rfl
      (by decide) hfields (by rw [hwire]; decide) hboundary hfit hcontent hchunks
      (Api.readsTexts_start _ _) hspent
  · exact ⟨fields, made, s', hfields, hwire, hrun, hholds⟩
  · -- no field has a default
    simp only [List.mem_cons, List.not_mem_nil, or_false] at hdecl
    rcases hdecl with rfl | rfl | rfl | rfl | rfl <;> cases hdefault

/-- **The checks of a class may refuse what was submitted.** No instance is returned then. -/
theorem submitted_title_refused :
    let type : TypeExpr := classExpr "Brief"
    let origin : Origin := .named (.declared (classNamed "Brief"))
    let entries : List Entry := [⟨"title", .text "long"⟩]
    let body := assemble "b" (entries.map Entry.outgoing)
    ∃ fields s', brief.env.fields { origin } = .ok fields ∧
      fields.map (fun f => (f.wireName, f.type)) = [("title", FormItem.text.type)] ∧
      IsBoundary "b" ∧ (∀ e ∈ entries, e.IsFit "b") ∧
      (brief.decodeForm type (some (formType "b")) (pure [body])).run textual =
        (.error (.fault (.raised .value "title too long")), s') := by
  intro type origin entries body
  have hboundary : IsBoundary "b" := by decide +kernel
  have hfit : ∀ e ∈ entries, e.IsFit "b" := by decide +kernel
  have hchunks : [body].flatten = body := List.flatten_singleton
  obtain ⟨f, hfields, hkey, hwire, htype, hdefault⟩ : ∃ f, brief.env.fields { origin } = .ok [f] ∧
      f.key = "title" ∧ f.wireName = "title" ∧ f.type = FormItem.text.type ∧ f.default = none :=
    ⟨_, rfl, rfl, rfl, rfl, rfl⟩
  have hsent : sentUnder entries f.wireName = [.text "long"] := by
    rw [hwire]
    rfl
  have hcontent : ∀ g ∈ [f], Fits g.type (sentUnder entries g.wireName) := by
    refine List.forall_mem_singleton.2 ?_
    rw [hsent, htype]
    exact Fits.one (i := .text) false trivial
  have hreads : textual.ReadsTexts := ⟨_, rfl, fun _ _ => rfl⟩
  have hspent : ∀ h ∈ textual.spent, h < textual.opened := fun h hh => by cases hh
  obtain ⟨s', ⟨arguments, hrun, hkeys, hholds⟩ | ⟨e, -, g, hg, -, hfails⟩⟩ :=
    run_decodeForm brief (a := type) (t := { origin }) rfl (by decide) rfl rfl hfields (by simp)
      hboundary hfit hcontent hchunks hreads hspent
  swap
  · rw [List.mem_singleton.1 hg, hdefault] at hfails
    cases hfails
  have harguments : arguments = [("title", .text "long")] := by
    obtain ⟨argument, rfl⟩ := List.length_eq_one_iff.1 (by simpa using congrArg List.length hkeys)
    obtain ⟨v, hv, hheld⟩ := hholds f List.mem_cons_self
    rw [hsent] at hheld
    rw [hkey] at hv
    rw [← List.mem_singleton.1 hv]
    cases hheld with
    | one _ h =>
      cases h
      rfl
    | many hlist =>
      rw [htype] at hlist
      cases hlist
  refine ⟨[f], s', hfields, by simp [hwire, htype], hboundary, hfit, ?_⟩
  rw [hrun, harguments]
  rfl

end ApiShape.Decoder
