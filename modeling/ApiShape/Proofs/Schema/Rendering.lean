import ApiShape.Proofs.Schema.Layer
import Mathlib.Data.List.Forall2
import Mathlib.Data.List.Perm.Subperm

/-!
# Publishing a schema loses nothing

Schemas are compared when one is stored under a name that is taken; what readers of an API see is
the published form. Several kinds of schemas are published as objects with a member `type`, and
members are left out where there is nothing to say.

* `Schema.Equals`, `Document.Equals` — equality, the order of properties and of members aside.
* `Proper` — no name occurs twice, in which case the comparisons that run decide equality:
  `Schema.same_iff`, `Document.same_iff`.
* `render_equals_iff` — published schemas are equal just when the schemas are.
* **`same_iff_published`** — the comparison of schemas is that of their published forms, whatever
  stands before the names in references, and so a collision is noted just when those differ.
-/

namespace ApiShape

/-! ## Entries under one name -/

/-- Values are related after a map if and only if they are before, given this of each of them. -/
theorem rel_map_iff {α β γ δ : Type} {R : γ → δ → Prop} {S : α → β → Prop} {f : α → γ} {g : β → δ}
    {x : Option α} {y : Option β} (h : ∀ a ∈ x, ∀ b, R (f a) (g b) ↔ S a b) :
    Option.Rel R (x.map f) (y.map g) ↔ Option.Rel S x y := by
  cases x <;> cases y <;> simp_all

theorem rel_map_eq_iff {α β : Type} {R : β → β → Prop} {f : α → β} {x y : Option α}
    (h : ∀ a b, R (f a) (f b) ↔ a = b) : Option.Rel R (x.map f) (y.map f) ↔ x = y := by
  cases x <;> cases y <;> simp [h]

theorem isSome_eq_of_rel {α β : Type} {R : α → β → Prop} {x : Option α} {y : Option β}
    (h : Option.Rel R x y) : x.isSome = y.isSome := by
  cases h <;> rfl

namespace Table

variable {α β : Type} {R : α → β → Prop}

/-- What is found under a name is an entry of the list. Other entries of the name may follow. -/
theorem mem_of_lookup {name : String} {v : α} {entries : List (String × α)}
    (h : lookup name entries = some v) : (name, v) ∈ entries := by
  induction entries with
  | nil => cases h
  | cons e rest ih =>
    rw [lookup] at h
    split at h
    · next hname =>
      cases h
      exact hname ▸ List.mem_cons_self
    · exact List.mem_cons_of_mem _ (ih h)

/-- Two lists of entries without repeated names have related values under every name if and only if
they are of one length and the second has a related value for each entry of the first. -/
theorem rel_lookup_iff {ps : List (String × α)} {qs : List (String × β)}
    (hps : (ps.map (·.1)).Nodup) (hqs : (qs.map (·.1)).Nodup) :
    (∀ name, Option.Rel R (lookup name ps) (lookup name qs)) ↔
      ps.length = qs.length ∧ ∀ p ∈ ps, ∃ v, lookup p.1 qs = some v ∧ R p.2 v := by
  constructor
  · intro h
    have hnames : ∀ name, name ∈ ps.map (·.1) ↔ name ∈ qs.map (·.1) := by
      intro name
      rw [← lookup_isSome_iff, ← lookup_isSome_iff, isSome_eq_of_rel (h name)]
    refine ⟨by simpa using ((List.perm_ext_iff_of_nodup hps hqs).2 hnames).length_eq, ?_⟩
    intro p hp
    have hname := h p.1
    rw [lookup_of_mem hps hp] at hname
    generalize lookup p.1 qs = y at hname
    cases hname with
    | some hr => exact ⟨_, rfl, hr⟩
  · rintro ⟨hlength, h⟩ name
    have hsubset : ps.map (·.1) ⊆ qs.map (·.1) := by
      intro key hkey
      obtain ⟨p, hp, rfl⟩ := List.mem_map.1 hkey
      obtain ⟨v, hv, -⟩ := h p hp
      exact (lookup_isSome_iff p.1 qs).1 (by rw [hv]; rfl)
    -- as the lengths are equal, the second list has no further names
    have hnames : (ps.map (·.1)).Perm (qs.map (·.1)) :=
      (List.Nodup.subperm hps hsubset).perm_of_length_le (by simp [hlength])
    cases hp : lookup name ps with
    | none =>
      have hq : lookup name qs = none := by
        rw [← Option.isNone_iff_eq_none, ← Option.not_isSome, Bool.not_eq_true', Bool.eq_false_iff,
          ne_eq, lookup_isSome_iff, ← hnames.mem_iff, ← lookup_isSome_iff, hp]
        exact Bool.false_ne_true
      exact hq ▸ .none
    | some s =>
      obtain ⟨v, hv, hr⟩ := h (name, s) (mem_of_lookup hp)
      exact hv ▸ .some hr

end Table

/-! ## Equality of documents -/

namespace Document

/-- The documents are equal, the order of members aside. -/
inductive Equals : Document → Document → Prop
  | text (s : String) : Equals (.text s) (.text s)
  | flag (b : Bool) : Equals (.flag b) (.flag b)
  | list {as bs : List Document} (h : List.Forall₂ Equals as bs) : Equals (.list as) (.list bs)
  | object {ms ns : List (String × Document)}
      (h : ∀ name, Option.Rel Equals (member? name ms) (member? name ns)) :
      Equals (.object ms) (.object ns)

mutual

/-- No object of the document has two members of one name. -/
def Proper : Document → Prop
  | text _ | flag _ => True
  | list items => ProperAll items
  | object members => (members.map (·.1)).Nodup ∧ ProperIn members

def ProperAll : List Document → Prop
  | [] => True
  | d :: rest => Proper d ∧ ProperAll rest

def ProperIn : List (String × Document) → Prop
  | [] => True
  | (_, d) :: rest => Proper d ∧ ProperIn rest

end

variable {as bs : List Document} {ms ns : List (String × Document)}

/-- The member of a document is looked up like the entry of a table. -/
theorem member?_eq_lookup (name : String) (ms : List (String × Document)) :
    member? name ms = Table.lookup name ms := by
  induction ms with
  | nil => rfl
  | cons m rest ih => rw [member?, Table.lookup, ih]

@[simp] theorem equals_text {s t : String} : (text s).Equals (text t) ↔ s = t :=
  ⟨fun h => by cases h; rfl, fun h => h ▸ .text s⟩

@[simp] theorem equals_flag {b c : Bool} : (flag b).Equals (flag c) ↔ b = c :=
  ⟨fun h => by cases h; rfl, fun h => h ▸ .flag b⟩

@[simp] theorem equals_list : (list as).Equals (list bs) ↔ List.Forall₂ Equals as bs :=
  ⟨fun h => by cases h; assumption, .list⟩

@[simp] theorem equals_object : (object ms).Equals (object ns) ↔
    ∀ name, Option.Rel Equals (member? name ms) (member? name ns) :=
  ⟨fun h => by cases h; assumption, .object⟩

/-- Documents of texts are equal just when the texts are. -/
theorem equals_texts {xs ys : List String} :
    List.Forall₂ Equals (xs.map text) (ys.map text) ↔ xs = ys := by
  simp [List.forall₂_map_left_iff, List.forall₂_map_right_iff, List.forall₂_eq_eq_eq]

/-- Objects of one member of the same name are equal just when the members are. -/
theorem equals_single {name : String} {d e : Document} :
    (object [(name, d)]).Equals (object [(name, e)]) ↔ d.Equals e := by
  rw [equals_object]
  refine ⟨fun h => by simpa [member?] using h name, fun h n => ?_⟩
  simp only [member?]
  split
  · exact .some h
  · exact .none

/-- Of objects with one type and one other member, that member decides. -/
theorem equals_typed {name type : String} {d e : Document} (hname : "type" ≠ name) :
    (object [("type", .text type), (name, d)]).Equals (object [("type", .text type), (name, e)]) ↔
      d.Equals e := by
  rw [equals_object]
  refine ⟨fun h => by simpa [member?, hname] using h name, fun h n => ?_⟩
  simp only [member?]
  split
  · exact .some (.text type)
  split
  · exact .some h
  · exact .none

theorem properAll_texts (items : List String) : ProperAll (items.map text) := by
  induction items with
  | nil => trivial
  | cons s rest ih => exact ⟨trivial, ih⟩

/-- The comparison runs through the members of the first object and looks each of them up in the
second one; it does not see what the second one has besides. -/
theorem sameIn_iff : sameIn ms ns = true ↔
    ∀ m ∈ ms, ∃ e, Table.lookup m.1 ns = some e ∧ m.2.same e = true := by
  induction ms with
  | nil => simp [sameIn]
  | cons m rest ih =>
    simp only [sameIn, Bool.and_eq_true, ih, List.forall_mem_cons, member?_eq_lookup]
    cases Table.lookup m.1 ns <;> simp

/-- All members are proper. -/
theorem properIn_iff : ProperIn ms ↔ ∀ m ∈ ms, m.2.Proper := by
  induction ms with
  | nil => simp [ProperIn]
  | cons m rest ih => rw [ProperIn, ih, List.forall_mem_cons]

mutual

/-- The comparison of documents decides equality. -/
theorem same_iff {d e : Document} (hd : d.Proper) (he : e.Proper) :
    d.same e = true ↔ d.Equals e := by
  cases d with
  | text s => cases e <;> simp [same] <;> nofun
  | flag b => cases e <;> simp [same] <;> nofun
  | list as =>
    cases e with
    | list bs => rw [same, equals_list, sameAll_iff hd he]
    | _ => exact ⟨nofun, nofun⟩
  | object ms =>
    cases e with
    | object ns =>
      have hmembers := same_iff_of_mem hd.2
      simp only [same, Bool.and_eq_true, decide_eq_true_eq, sameIn_iff, equals_object,
        member?_eq_lookup, Table.rel_lookup_iff hd.1 he.1]
      refine and_congr_right fun _ => forall₂_congr fun m hm => exists_congr fun e =>
        and_congr_right fun hlookup => ?_
      exact hmembers m hm e (properIn_iff.1 he.2 _ (Table.mem_of_lookup hlookup))
    | _ => exact ⟨nofun, nofun⟩

/-- Lists of proper documents are compared item by item. -/
theorem sameAll_iff {as bs : List Document} (has : ProperAll as) (hbs : ProperAll bs) :
    sameAll as bs = true ↔ List.Forall₂ Equals as bs := by
  cases as with
  | nil => cases bs <;> simp [sameAll]
  | cons a as =>
    cases bs with
    | nil => simp [sameAll]
    | cons b bs =>
      rw [sameAll, Bool.and_eq_true, same_iff has.1 hbs.1, sameAll_iff has.2 hbs.2,
        List.forall₂_cons]

/-- The induction hypothesis for the members of an object. -/
theorem same_iff_of_mem {ms : List (String × Document)} (hms : ProperIn ms) :
    ∀ m ∈ ms, ∀ e : Document, e.Proper → (m.2.same e = true ↔ m.2.Equals e) := by
  cases ms with
  | nil => exact nofun
  | cons m rest =>
    exact List.forall_mem_cons.2 ⟨fun e he => same_iff hms.1 he, same_iff_of_mem hms.2⟩

end

end Document

/-! ## Equality of schemas -/

namespace Schema

/-- The schemas are equal, the order of properties aside: they are of one kind, have equal schemas
under the same property names, and the same texts and variants in the same order. -/
inductive Equals : Schema → Schema → Prop
  | primitive (type : String) (format : Option String) (enum : Option (List String)) :
      Equals (.primitive type format enum) (.primitive type format enum)
  | object {ps qs : List (String × Schema)} (required : List String)
      (h : ∀ name, Option.Rel Equals (Table.lookup name ps) (Table.lookup name qs)) :
      Equals (.object ps required) (.object qs required)
  | array {s t : Schema} (h : Equals s t) : Equals (.array s) (.array t)
  | map {s t : Schema} (h : Equals s t) : Equals (.map s) (.map t)
  | oneOf {ss ts : List Schema} (h : List.Forall₂ Equals ss ts) : Equals (.oneOf ss) (.oneOf ts)
  | ref (name : String) : Equals (.ref name) (.ref name)

mutual

/-- No object of the schema has two properties of one name. The lists that a schema is nested in
cannot carry this as a table does; that what is built keeps to it is `Blueprint.buildAll_proper`. -/
def Proper : Schema → Prop
  | primitive .. | ref _ => True
  | object properties _ => (properties.map (·.1)).Nodup ∧ ProperIn properties
  | array s | map s => Proper s
  | oneOf variants => ProperAll variants

def ProperAll : List Schema → Prop
  | [] => True
  | s :: rest => Proper s ∧ ProperAll rest

def ProperIn : List (String × Schema) → Prop
  | [] => True
  | (_, s) :: rest => Proper s ∧ ProperIn rest

end

variable {s t : Schema} {ss ts : List Schema} {ps qs : List (String × Schema)}
  {refBase name : String}

@[simp] theorem equals_primitive {type type' : String} {format format' : Option String}
    {enum enum' : Option (List String)} :
    (primitive type format enum).Equals (primitive type' format' enum') ↔
      type = type' ∧ format = format' ∧ enum = enum' := by
  constructor
  · intro h
    cases h
    exact ⟨rfl, rfl, rfl⟩
  · rintro ⟨rfl, rfl, rfl⟩
    exact .primitive type format enum

/-- Objects are equal if the same names have equal properties and the same names are required, in
the same order. -/
@[simp] theorem equals_object {required required' : List String} :
    (object ps required).Equals (object qs required') ↔
      (∀ name, Option.Rel Equals (Table.lookup name ps) (Table.lookup name qs)) ∧
        required = required' := by
  constructor
  · intro h
    cases h with
    | object _ h => exact ⟨h, rfl⟩
  · rintro ⟨h, rfl⟩
    exact .object required h

@[simp] theorem equals_array : (array s).Equals (array t) ↔ s.Equals t :=
  ⟨fun h => by cases h; assumption, .array⟩

@[simp] theorem equals_map : (map s).Equals (map t) ↔ s.Equals t :=
  ⟨fun h => by cases h; assumption, .map⟩

@[simp] theorem equals_oneOf : (oneOf ss).Equals (oneOf ts) ↔ List.Forall₂ Equals ss ts :=
  ⟨fun h => by cases h; assumption, .oneOf⟩

@[simp] theorem equals_ref {name name' : String} : (ref name).Equals (ref name') ↔ name = name' :=
  ⟨fun h => by cases h; rfl, fun h => h ▸ .ref name⟩

/-- The comparison runs through the properties of the first object and looks each of them up in the
second one. -/
theorem sameIn_iff : sameIn ps qs = true ↔
    ∀ p ∈ ps, ∃ t, Table.lookup p.1 qs = some t ∧ p.2.same t = true := by
  induction ps with
  | nil => simp [sameIn]
  | cons p rest ih =>
    simp only [sameIn, Bool.and_eq_true, ih, List.forall_mem_cons]
    cases Table.lookup p.1 qs <;> simp

/-- The schemas of all properties are proper. -/
theorem properIn_iff : ProperIn ps ↔ ∀ p ∈ ps, p.2.Proper := by
  induction ps with
  | nil => simp [ProperIn]
  | cons p rest ih => rw [ProperIn, ih, List.forall_mem_cons]

mutual

/-- The comparison of schemas decides equality. -/
theorem same_iff {s t : Schema} (hs : s.Proper) (ht : t.Proper) :
    s.same t = true ↔ s.Equals t := by
  -- schemas of two kinds are neither the same nor equal
  cases s with
  | primitive type format enum =>
    cases t with
    | primitive type' format' enum' =>
      simp only [same, Bool.and_eq_true, decide_eq_true_eq, equals_primitive, and_assoc]
    | _ => exact ⟨nofun, nofun⟩
  | object ps required =>
    cases t with
    | object qs required' =>
      -- the names of both are distinct, so entries may be looked up
      have hproperties := same_iff_of_mem hs.2
      simp only [same, Bool.and_eq_true, decide_eq_true_eq, sameIn_iff, equals_object,
        Table.rel_lookup_iff hs.1 ht.1]
      refine and_congr_left fun _ => and_congr_right fun _ => forall₂_congr fun p hp =>
        exists_congr fun t => and_congr_right fun hlookup => ?_
      exact hproperties p hp t (properIn_iff.1 ht.2 _ (Table.mem_of_lookup hlookup))
    | _ => exact ⟨nofun, nofun⟩
  | array s =>
    cases t with
    | array t => exact (same_iff (s := s) (t := t) hs ht).trans equals_array.symm
    | _ => exact ⟨nofun, nofun⟩
  | map s =>
    cases t with
    | map t => exact (same_iff (s := s) (t := t) hs ht).trans equals_map.symm
    | _ => exact ⟨nofun, nofun⟩
  | oneOf ss =>
    cases t with
    | oneOf ts => rw [same, equals_oneOf, sameAll_iff hs ht]
    | _ => exact ⟨nofun, nofun⟩
  | ref name =>
    cases t with
    | ref name' => rw [same, equals_ref, decide_eq_true_eq]
    | _ => exact ⟨nofun, nofun⟩

/-- Lists of proper schemas are compared variant by variant. -/
theorem sameAll_iff {ss ts : List Schema} (hss : ProperAll ss) (hts : ProperAll ts) :
    sameAll ss ts = true ↔ List.Forall₂ Equals ss ts := by
  cases ss with
  | nil => cases ts <;> simp [sameAll]
  | cons s ss =>
    cases ts with
    | nil => simp [sameAll]
    | cons t ts =>
      rw [sameAll, Bool.and_eq_true, same_iff hss.1 hts.1, sameAll_iff hss.2 hts.2,
        List.forall₂_cons]

/-- The induction hypothesis for the properties of an object. -/
theorem same_iff_of_mem {ps : List (String × Schema)} (hps : ProperIn ps) :
    ∀ p ∈ ps, ∀ t : Schema, t.Proper → (p.2.same t = true ↔ p.2.Equals t) := by
  cases ps with
  | nil => exact nofun
  | cons p rest =>
    exact List.forall_mem_cons.2 ⟨fun t ht => same_iff hps.1 ht, same_iff_of_mem hps.2⟩

end

/-! ## Published schemas -/

open Document (member?)

/-- The members of a published primitive. -/
def primitiveMembers (type : String) (format : Option String) (enum : Option (List String)) :
    List (String × Document) :=
  ("type", .text type) :: (format.toList.map fun s => ("format", .text s)) ++
    enum.toList.map fun items => ("enum", .list (items.map .text))

/-- The members of a published object; no required names is not said. -/
def objectMembers (refBase : String) (properties : List (String × Schema))
    (required : List String) : List (String × Document) :=
  [("type", .text "object"), ("properties", .object (renderProperties refBase properties))] ++
    if required = [] then [] else [("required", .list (required.map .text))]

/-- A primitive is published by its members. -/
theorem render_primitive (type : String) (format : Option String) (enum : Option (List String)) :
    (primitive type format enum).render refBase = .object (primitiveMembers type format enum) := by
  cases format <;> cases enum <;> rfl

/-- An object is published by its members. -/
theorem render_object (properties : List (String × Schema)) (required : List String) :
    (object properties required).render refBase =
      .object (objectMembers refBase properties required) := by
  cases required <;> rfl

/-- The members of a published primitive, those that are left out included. -/
theorem member?_primitive (type : String) (format : Option String) (enum : Option (List String)) :
    member? name (primitiveMembers type format enum) =
      if name = "type" then some (.text type)
      else if name = "format" then format.map .text
      else if name = "enum" then enum.map fun items => .list (items.map .text)
      else none := by
  cases format <;> cases enum <;> simp only [primitiveMembers, member?, Option.toList, List.map,
    List.cons_append, List.nil_append] <;> grind

/-- The members of a published object. The required names are left out where there are none. -/
theorem member?_object (properties : List (String × Schema)) (required : List String) :
    member? name (objectMembers refBase properties required) =
      if name = "type" then some (.text "object")
      else if name = "properties" then some (.object (renderProperties refBase properties))
      else if name = "required" ∧ required ≠ [] then some (.list (required.map .text))
      else none := by
  cases required <;> simp only [objectMembers, member?, List.cons_append, List.nil_append] <;>
    grind [member?]

/-- The published property of a name is that of the schema under the name. -/
theorem member?_renderProperties (properties : List (String × Schema)) :
    member? name (renderProperties refBase properties) =
      (Table.lookup name properties).map (render refBase) := by
  induction properties with
  | nil => rfl
  | cons p rest ih =>
    rw [renderProperties, member?, Table.lookup, ih]
    split <;> rfl

/-- The members that only one kind of schemas is published with. -/
def marks : List String := ["properties", "items", "additionalProperties", "oneOf", "$ref"]

/-- The member that tells the schema from those of other kinds. -/
def mark : Schema → Option String
  | primitive .. => none
  | object .. => some "properties"
  | array _ => some "items"
  | map _ => some "additionalProperties"
  | oneOf _ => some "oneOf"
  | ref _ => some "$ref"

/-- The first of the marks that the document bears. -/
def markOf : Document → Option String
  | .object members => marks.find? fun name => (member? name members).isSome
  | _ => none

/-- The mark of a published schema tells its kind. -/
theorem markOf_render (refBase : String) (s : Schema) : markOf (s.render refBase) = s.mark := by
  cases s with
  | primitive type format enum => simp [render_primitive, markOf, marks, mark, member?_primitive]
  | object properties required => simp [render_object, markOf, marks, mark, member?_object]
  | array | map | oneOf | ref => rfl

/-- Equal documents have the same mark, so schemas of two kinds are never published alike. -/
theorem markOf_eq_of_equals {d e : Document} (h : d.Equals e) : markOf d = markOf e := by
  cases h with
  | text | flag | list => rfl
  | object h => exact congrArg (marks.find? ·) (funext fun name => isSome_eq_of_rel (h name))

/-- Schemas of different kinds are published differently. -/
theorem not_equals_of_mark (h : s.mark ≠ t.mark) :
    ¬ (s.render refBase).Equals (t.render refBase) := by
  intro hequals
  refine h ?_
  rw [← markOf_render refBase s, ← markOf_render refBase t, markOf_eq_of_equals hequals]

/-- Nothing of a primitive is lost in its members, although some may be left out. -/
theorem primitiveMembers_equals {type type' : String} {format format' : Option String}
    {enum enum' : Option (List String)} :
    (∀ name, Option.Rel Document.Equals (member? name (primitiveMembers type format enum))
      (member? name (primitiveMembers type' format' enum'))) ↔
      type = type' ∧ format = format' ∧ enum = enum' := by
  have hformats : Option.Rel Document.Equals (format.map .text) (format'.map .text) ↔
      format = format' := rel_map_eq_iff fun _ _ => Document.equals_text
  have henums : Option.Rel Document.Equals (enum.map fun items => .list (items.map .text))
      (enum'.map fun items => .list (items.map .text)) ↔ enum = enum' :=
    rel_map_eq_iff fun _ _ => Document.equals_list.trans Document.equals_texts
  simp only [member?_primitive]
  constructor
  · intro h
    refine ⟨?_, hformats.1 (h "format"), henums.1 (h "enum")⟩
    exact Document.equals_text.1 (Option.rel_some_some.1 (h "type"))
  · rintro ⟨htype, hformat, henum⟩ name
    split
    · exact .some (Document.equals_text.2 htype)
    split
    · exact hformats.2 hformat
    split
    · exact henums.2 henum
    · exact .none

/-- Nothing of an object is lost in its members, although the required names may be left out. -/
theorem objectMembers_equals {required required' : List String} :
    (∀ name, Option.Rel Document.Equals (member? name (objectMembers refBase ps required))
      (member? name (objectMembers refBase qs required'))) ↔
      (Document.object (renderProperties refBase ps)).Equals
        (.object (renderProperties refBase qs)) ∧ required = required' := by
  simp only [member?_object]
  constructor
  · intro h
    refine ⟨Option.rel_some_some.1 (h "properties"), ?_⟩
    -- a member `required` on one side alone says that the lists differ
    have hrequired := h "required"
    cases required with
    | nil =>
      cases required' with
      | nil => rfl
      | cons => simp at hrequired
    | cons =>
      cases required' with
      | nil => simp at hrequired
      | cons => simpa [Document.equals_texts] using hrequired
  · rintro ⟨hproperties, rfl⟩ name
    split
    · exact .some (.text "object")
    split
    · exact .some hproperties
    split
    · exact .some (Document.equals_list.2 (Document.equals_texts.2 rfl))
    · exact .none

mutual

/-- **Published schemas are equal just when the schemas are.** Induction on the first schema: one of
another kind bears another mark, and one of its kind is published with the same members. -/
theorem render_equals_iff (refBase : String) (s t : Schema) :
    (s.render refBase).Equals (t.render refBase) ↔ s.Equals t := by
  -- the other kinds are told apart by the member that only this kind is published with
  cases s with
  | primitive type format enum =>
    cases t with
    | primitive type' format' enum' =>
      rw [render_primitive, render_primitive, Document.equals_object, equals_primitive,
        primitiveMembers_equals]
    | _ => exact ⟨fun h => absurd h (not_equals_of_mark (by simp [mark])), nofun⟩
  | object ps required =>
    cases t with
    | object qs required' =>
      -- properties are compared under each name, so their order plays no part
      have hproperties := render_equals_iff_of_mem refBase ps
      rw [render_object, render_object, Document.equals_object, equals_object,
        objectMembers_equals, Document.equals_object]
      refine and_congr_left fun _ => forall_congr' fun name => ?_
      rw [member?_renderProperties, member?_renderProperties]
      exact rel_map_iff fun s hs t => hproperties _ (Table.mem_of_lookup hs) t
    | _ => exact ⟨fun h => absurd h (not_equals_of_mark (by simp [mark])), nofun⟩
  | array s =>
    cases t with
    | array t =>
      rw [equals_array, ← render_equals_iff refBase s t]
      exact Document.equals_typed (by decide)
    | _ => exact ⟨fun h => absurd h (not_equals_of_mark (by simp [mark])), nofun⟩
  | map s =>
    cases t with
    | map t =>
      rw [equals_map, ← render_equals_iff refBase s t]
      exact Document.equals_typed (by decide)
    | _ => exact ⟨fun h => absurd h (not_equals_of_mark (by simp [mark])), nofun⟩
  | oneOf ss =>
    cases t with
    | oneOf ts =>
      rw [equals_oneOf, ← renderAll_equals_iff refBase ss ts, ← Document.equals_list]
      exact Document.equals_single
    | _ => exact ⟨fun h => absurd h (not_equals_of_mark (by simp [mark])), nofun⟩
  | ref name =>
    cases t with
    | ref name' =>
      rw [equals_ref, render, render, Document.equals_single, Document.equals_text,
        String.append_right_inj]
    | _ => exact ⟨fun h => absurd h (not_equals_of_mark (by simp [mark])), nofun⟩

/-- Published variants are equal just when the variants are. -/
theorem renderAll_equals_iff (refBase : String) (ss ts : List Schema) :
    List.Forall₂ Document.Equals (renderAll refBase ss) (renderAll refBase ts) ↔
      List.Forall₂ Equals ss ts := by
  cases ss with
  | nil => cases ts <;> simp [renderAll]
  | cons s ss =>
    cases ts with
    | nil => simp [renderAll]
    | cons t ts =>
      rw [renderAll, renderAll, List.forall₂_cons, List.forall₂_cons, render_equals_iff refBase s,
        renderAll_equals_iff refBase ss]

/-- The induction hypothesis for the properties of an object. -/
theorem render_equals_iff_of_mem (refBase : String) (ps : List (String × Schema)) :
    ∀ p ∈ ps, ∀ t : Schema, (p.2.render refBase).Equals (t.render refBase) ↔ p.2.Equals t := by
  cases ps with
  | nil => exact nofun
  | cons p rest =>
    exact List.forall_mem_cons.2
      ⟨fun t => render_equals_iff refBase p.2 t, render_equals_iff_of_mem refBase rest⟩

end

/-- Properties are published under their names. -/
theorem map_fst_renderProperties (refBase : String) (properties : List (String × Schema)) :
    (renderProperties refBase properties).map (·.1) = properties.map (·.1) := by
  induction properties with
  | nil => rfl
  | cons p rest ih => exact congrArg (p.1 :: ·) ih

mutual

/-- Where no object has two properties of one name, no published object has two members of one. -/
theorem render_proper (refBase : String) {s : Schema} (hs : s.Proper) :
    (s.render refBase).Proper := by
  cases s with
  | primitive type format enum =>
    rw [render_primitive]
    cases format <;> cases enum <;>
      simp [primitiveMembers, Document.Proper, Document.ProperIn, Document.properAll_texts]
  | object properties required =>
    have hproperties : (Document.object (renderProperties refBase properties)).Proper :=
      ⟨by rw [map_fst_renderProperties]; exact hs.1, renderProperties_proper refBase hs.2⟩
    rw [render_object]
    cases required with
    | nil => exact ⟨by simp [objectMembers], trivial, hproperties, trivial⟩
    | cons name rest =>
      exact ⟨by simp [objectMembers], trivial, hproperties,
        Document.properAll_texts (name :: rest), trivial⟩
  | array s => exact ⟨by simp, trivial, render_proper (s := s) refBase hs, trivial⟩
  | map s => exact ⟨by simp, trivial, render_proper (s := s) refBase hs, trivial⟩
  | oneOf ss => exact ⟨by simp, renderAll_proper refBase hs, trivial⟩
  | ref name => exact ⟨by simp, trivial, trivial⟩

/-- Variants without repeated names are published without. -/
theorem renderAll_proper (refBase : String) {ss : List Schema} (hss : ProperAll ss) :
    Document.ProperAll (renderAll refBase ss) := by
  cases ss with
  | nil => trivial
  | cons s ss => exact ⟨render_proper refBase hss.1, renderAll_proper refBase hss.2⟩

/-- Properties without repeated names in them are published without. -/
theorem renderProperties_proper (refBase : String) {ps : List (String × Schema)}
    (hps : ProperIn ps) : Document.ProperIn (renderProperties refBase ps) := by
  cases ps with
  | nil => trivial
  | cons p rest => exact ⟨render_proper refBase hps.1, renderProperties_proper refBase hps.2⟩

end

/-! ## Collisions -/

/-- A schema that is stored under a taken name is compared with the one that stands there. -/
theorem collisions_store (bp : Blueprint) {state : State} (h : state.schemas.get? name = some s) :
    ((bp.store name t).run state).2.collisions =
      state.collisions ++ if s.same t then [] else [⟨name, s, t⟩] := by
  refine Action.snd_of_wp (p := fun state' => state'.collisions = _) (Blueprint.wp_store ?_ ?_ ?_)
  · intro hnone
    rw [h] at hnone
    cases hnone
  · intro existing hexisting hsame
    obtain rfl : s = existing := Option.some.inj (h.symm.trans hexisting)
    rw [if_pos hsame, List.append_nil]
  · intro existing hexisting hsame
    obtain rfl : s = existing := Option.some.inj (h.symm.trans hexisting)
    rw [if_neg (Bool.eq_false_iff.1 hsame)]
    exact ⟨fun _ _ => rfl, fun _ _ => rfl⟩

/-- **Publishing loses nothing.** The comparisons of schemas and of documents decide their equality,
published schemas are equal just when the schemas are, whatever stands before the names in
references, and a schema that is stored under a taken name collides just when it is published
differently. -/
theorem same_iff_published (hs : s.Proper) (ht : t.Proper) (refBase : String) :
    (s.same t = true ↔ s.Equals t) ∧
    ((s.render refBase).same (t.render refBase) = true ↔
      (s.render refBase).Equals (t.render refBase)) ∧
    ((s.render refBase).Equals (t.render refBase) ↔ s.Equals t) ∧
    (∀ other, (s.render refBase).Equals (t.render refBase) ↔
      (s.render other).Equals (t.render other)) ∧
    ∀ (bp : Blueprint) (state : State) (name : String), state.schemas.get? name = some s →
      ((bp.store name t).run state).2.collisions = state.collisions ++
        if (s.render refBase).same (t.render refBase) then [] else [⟨name, s, t⟩] := by
  have hschemas := same_iff hs ht
  have hpublished := render_equals_iff refBase s t
  have hdocuments := Document.same_iff (render_proper refBase hs) (render_proper refBase ht)
  have hsame : (s.render refBase).same (t.render refBase) = s.same t :=
    Bool.eq_iff_iff.2 (hdocuments.trans (hpublished.trans hschemas.symm))
  refine ⟨hschemas, hdocuments, hpublished, fun other => ?_, fun bp state name h => ?_⟩
  · rw [hpublished, render_equals_iff other]
  · rw [hsame]
    exact collisions_store bp h

namespace Sample

/-- The schema of a parcel, with its properties in one order and in the other. -/
def parcel : Schema :=
  .object [("label", .string), ("parts", .array (.ref "Parcel"))] ["label"]

def parcelReversed : Schema :=
  .object [("parts", .array (.ref "Parcel")), ("label", .string)] ["label"]

/-- The parcels that have been named. -/
def parcels : State := { schemas := Table.ofList [("Parcel", parcel)] }

end Sample

open Schema.Sample in
/-- The reversed parcel is published like the parcel, and does not collide with it; an array of
parcels does. -/
theorem same_iff_published_parcel :
    parcel.Equals parcelReversed ∧
    ((({ env := {} } : Blueprint).store "Parcel" parcelReversed).run parcels).2.collisions = [] ∧
    ¬ ((parcel.render "#/").Equals ((array (.ref "Parcel")).render "#/")) := by
  have hproper : parcel.Proper := by simp [parcel, Proper, ProperIn, string, plain]
  have hreversed : parcelReversed.Proper := by
    simp [parcelReversed, Proper, ProperIn, string, plain]
  obtain ⟨hsame, hdocuments, hpublished, -, hstore⟩ :=
    same_iff_published hproper hreversed standardRefBase
  have hequals : parcel.Equals parcelReversed := by
    refine hsame.1 ?_
    simp [parcel, parcelReversed, same, sameIn, Table.lookup, string, plain]
  refine ⟨hequals, ?_, ?_⟩
  · rw [hstore _ parcels "Parcel" rfl, if_pos (hdocuments.2 (hpublished.2 hequals))]
    rfl
  · rw [(same_iff_published hproper (t := array (.ref "Parcel")) trivial "#/").2.2.1]
    rintro ⟨⟩

end Schema

end ApiShape
