import ApiShape.Proofs.Decoder.Locations

/-!
# Sequences in headers

A header may come in several lines, under names in any letter case, and those who pass a request on
may join the lines with commas. The items of a sequence are taken from the lines by their commas, so
they depend on nothing but the joined lines.

* `Http.RawRequest.headerLines` — the lines of a header; `valuesAt_header` says that they are what a
  request has under its name.
* `headerItems_joined` — the items of the lines are those of the joined line.
* **`header_items_combined`** — two requests with the same joined lines have the same items, and
  bind them alike where no other kind of field of the name has a value.
* **`split_header_differs`** — beside a single text of the name, they do not.
-/

namespace ApiShape

open ApiShape.Action

/-- A group has the values of its key in order. -/
theorem Table.getD_get?_group {κ ν : Type} [DecidableEq κ] (pairs : List (κ × ν)) (k : κ) :
    ((Table.group pairs).get? k).getD [] = (pairs.filter fun p => p.1 = k).map (·.2) := by
  suffices h : ∀ t : Table κ (List ν),
      ((pairs.foldl (fun t p => t.set p.1 ((t.get? p.1).getD [] ++ [p.2])) t).get? k).getD [] =
        (t.get? k).getD [] ++ (pairs.filter fun p => p.1 = k).map (·.2) from h ∅
  induction pairs with
  | nil => exact fun t => (List.append_nil _).symm
  | cons p rest ih =>
    intro t
    rw [List.foldl_cons, ih, Table.get?_set]
    by_cases hk : p.1 = k
    · simp [hk]
    · simp [hk]

/-- The values of a header, under its name in any letter case. -/
def Http.RawRequest.headerLines (raw : Http.RawRequest) (name : String) : List String :=
  (raw.headers.filter fun h => lowerCase h.1 = lowerCase name).map (·.2)

/-- The values of a header are its lines, under any letter case of its name. -/
theorem Http.Request.valuesAt_header {raw : Http.RawRequest} {r : Http.Request}
    (h : Http.Request.read raw = .ok r) (name : String) :
    r.valuesAt .header name = .ok (raw.headerLines name) := by
  obtain ⟨url, -, hmade⟩ := Action.bind_eq_ok_iff.1 h
  cases hmade
  refine congrArg Except.ok ((Table.getD_get?_group _ _).trans ?_)
  rw [List.filter_map, List.map_map]
  rfl

namespace Decoder

variable {dec : Decoder} {f : Field} {fields : List Field} {a : TypeExpr} {t : Descriptor}
  {raw raw' : Http.RawRequest} {r r' : Http.Request} {params params' : Table String Value}

/-- Splitting joined lines is splitting each of them. -/
theorem pieces_joined {lines : List String} (h : lines ≠ []) :
    Text.pieces ',' (",".intercalate lines).toList =
      lines.flatMap fun line => Text.pieces ',' line.toList := by
  induction lines with
  | nil => exact absurd rfl h
  | cons line rest ih =>
    cases rest with
    | nil => simp
    | cons next rest =>
      have hjoined : (",".intercalate (line :: next :: rest)).toList =
          line.toList ++ ',' :: (",".intercalate (next :: rest)).toList := by
        simp [String.intercalate_cons_cons]
      rw [hjoined, Text.pieces_append, ih (List.cons_ne_nil _ _)]
      rfl

/-- **The items of the lines of a header are those of the joined line.** -/
theorem headerItems_joined {lines : List String} (h : lines ≠ []) :
    headerItems lines = headerItems [",".intercalate lines] := by
  rw [headerItems, headerItems, List.flatMap_singleton, pieces_joined h, List.map_flatMap]

/-- The field is a sequence in a header. -/
def IsHeaderSequence (dec : Decoder) (f : Field) : Prop :=
  f.location = .header ∧ dec.env.kind f.type = .array

/-- A sequence in a header is looked up in the joined lines. -/
theorem lookup_header (hf : dec.IsHeaderSequence f) (hr : Http.Request.read raw = .ok r)
    (hlines : raw.headerLines f.wireName ≠ []) :
    dec.lookup r f = .ok (headerItems [",".intercalate (raw.headerLines f.wireName)]) := by
  rw [lookup_eq, hf.1, Http.Request.valuesAt_header hr, ← headerItems_joined hlines]
  exact congrArg Except.ok (if_pos ⟨rfl, hf.2⟩)

theorem headerItems_joined_ne_nil (line : String) : headerItems [line] ≠ [] := by
  simpa [headerItems] using Text.pieces_ne_nil ',' line.toList

/-- Where the fields of a name have the same texts or none, these texts stand under the name. -/
theorem rawOf_of_lookup {items : List String} (h : dec.parameters r fields = .ok params)
    (hf : f ∈ fields) (hitems : items ≠ []) (hlookup : dec.lookup r f = .ok items)
    (hsame : ∀ g ∈ fields, g.wireName = f.wireName →
      dec.lookup r g = .ok items ∨ dec.lookup r g = .ok []) :
    rawOf params f = rawValue items := by
  rw [rawOf_parameters h]
  cases hlast : Table.lastOf? f.wireName (dec.findings r fields) with
  | none =>
    -- what was found for the field itself stands under its name
    have hfound : dec.found r f = items := by rw [found, hlookup]
    refine absurd (List.mem_filter.2 ⟨List.mem_map.2 ⟨f, hf, rfl⟩, ?_⟩)
      (Table.not_mem_of_lastOf? hlast (dec.found r f))
    simpa [hfound] using hitems
  | some texts =>
    obtain ⟨hmem, hne⟩ := List.mem_filter.1 (Table.mem_of_lastOf? hlast)
    obtain ⟨g, hg, heq⟩ := List.mem_map.1 hmem
    obtain ⟨hname, rfl⟩ := Prod.mk.inj heq
    rcases hsame g hg hname with hg | hg
    · rw [found, hg, rawValue, if_neg (by simpa using hitems)]
      rfl
    · simp [found, hg] at hne

/-- Requests in which every field has the same values are bound alike. -/
theorem bind_congr (ht : describe a = .ok t) (hfields : dec.env.fields t = .ok fields)
    (h : ∀ f ∈ fields, dec.lookup r f = dec.lookup r' f) : dec.bind r a = dec.bind r' a := by
  have hfound : (fields.mapM fun f => do
        return (f.wireName, ← Action.ofExcept (dec.lookup r f)) : Action _) =
      fields.mapM fun f => do return (f.wireName, ← Action.ofExcept (dec.lookup r' f)) :=
    mapM_congr fun f hf => by rw [h f hf]
  have hcollect : dec.collect r a = dec.collect r' a := by
    unfold collect
    rw [ht]
    show (Action.ofExcept (dec.env.fields t) >>= _) = Action.ofExcept (dec.env.fields t) >>= _
    rw [hfields, ofExcept_ok_bind, ofExcept_ok_bind, hfound]
  unfold bind
  rw [hcollect]

/-- **Sequences in headers depend on the joined lines alone.** Two requests may give a header in
different lines, under names in different letter cases, and may differ in all else. If the lines are
the same when they are joined with commas, the same items are looked up. If no other kind of field
of the name has a value, these items are what is gathered under the name, and the field is bound to
the same value or fails with the same error; and if the requests agree on the fields of other names,
the whole is bound alike. A single line is its own joined line. -/
theorem header_items_combined (dec : Decoder) (ht : describe a = .ok t)
    (hfields : dec.env.fields t = .ok fields) {place : Nat} (hplace : fields[place]? = some f)
    (hf : dec.IsHeaderSequence f) (hr : Http.Request.read raw = .ok r)
    (hr' : Http.Request.read raw' = .ok r') (hlines : raw.headerLines f.wireName ≠ [])
    (hlines' : raw'.headerLines f.wireName ≠ [])
    (hjoined : ",".intercalate (raw.headerLines f.wireName) =
      ",".intercalate (raw'.headerLines f.wireName)) :
    let items := headerItems [",".intercalate (raw.headerLines f.wireName)]
    dec.lookup r f = .ok items ∧ dec.lookup r' f = .ok items ∧
    ((∀ g ∈ fields, g.wireName = f.wireName →
        dec.IsHeaderSequence g ∨ dec.lookup r g = .ok [] ∧ dec.lookup r' g = .ok []) →
      (∀ params params', dec.parameters r fields = .ok params →
        dec.parameters r' fields = .ok params' →
        rawOf params f = rawValue items ∧ rawOf params' f = rawValue items ∧
        ∀ s result result', BindsAt dec fields params s place result →
          BindsAt dec fields params' s place result' → result = result') ∧
      ((∀ g ∈ fields, g.wireName ≠ f.wireName → dec.lookup r g = dec.lookup r' g) →
        dec.bind r a = dec.bind r' a)) := by
  intro items
  -- joined first, then split: the lookup sees the header lines through the joined line alone
  have hlookup : ∀ g, g.wireName = f.wireName → dec.IsHeaderSequence g →
      dec.lookup r g = .ok items ∧ dec.lookup r' g = .ok items := by
    intro g hname hg
    rw [lookup_header hg hr (hname ▸ hlines), lookup_header hg hr' (hname ▸ hlines'), hname,
      ← hjoined]
    exact ⟨rfl, rfl⟩
  obtain ⟨hfound, hfound'⟩ := hlookup f rfl hf
  refine ⟨hfound, hfound', fun hshared => ⟨?_, fun hothers => ?_⟩⟩
  · intro params params' h h'
    -- the items are no empty list, so they stand under the name whatever else found nothing there
    have hmem : f ∈ fields := List.mem_of_getElem? hplace
    have hitems : items ≠ [] := headerItems_joined_ne_nil _
    have hraw : rawOf params f = rawValue items :=
      rawOf_of_lookup h hmem hitems hfound fun g hg hname =>
        (hshared g hg hname).imp (fun h => (hlookup g hname h).1) fun h => h.1
    have hraw' : rawOf params' f = rawValue items :=
      rawOf_of_lookup h' hmem hitems hfound' fun g hg hname =>
        (hshared g hg hname).imp (fun h => (hlookup g hname h).2) fun h => h.2
    exact ⟨hraw, hraw', fun s result result' hbinds hbinds' =>
      BindsAt.congr h h' hplace (hraw.trans hraw'.symm) hbinds hbinds'⟩
  · refine bind_congr ht hfields fun g hg => ?_
    by_cases hname : g.wireName = f.wireName
    · -- fields of the name: either both requests give these items, or neither gives any
      rcases hshared g hg hname with hsequence | ⟨hnone, hnone'⟩
      · obtain ⟨hg, hg'⟩ := hlookup g hname hsequence
        exact hg.trans hg'.symm
      · exact hnone.trans hnone'.symm
    · exact hothers g hg hname

open ApiShape.Sample

namespace Sample

/-- The labels of a parcel and its first label, both from headers of the given names. -/
def parcelLabels (all first : String) : Decoder where
  env := ⟨[
    dataclass "Labels" [
      { name := "all"
        type := .annotated (.sequence .list text) [.parameter .header (some all) none] },
      { name := "first"
        type := .annotated text [.parameter .header (some first) none] }]]⟩

/-- Labels in two lines, beside another header, and the same labels in one line. -/
def inTwoLines : Http.RawRequest where
  headers := [("label", "a"), ("top", "x"), ("LABEL", "b, c")]

def inOneLine : Http.RawRequest where
  headers := [("top", "x"), ("Label", "a,b, c")]

def labelled (all : List String) (first : String) : Value :=
  instanceOf "Labels" [("all", .list (all.map .text)), ("first", .text first)]

end Sample

open Decoder.Sample

/-- Labels in two lines are bound like labels in one. -/
theorem header_items_combined_labels :
    let type : TypeExpr := classExpr "Labels"
    let t : Descriptor := classType "Labels"
    let dec := parcelLabels "Label" "Top"
    ∃ fields f r r', describe type = .ok t ∧ dec.env.fields t = .ok fields ∧
      fields[0]? = some f ∧ dec.IsHeaderSequence f ∧ Http.Request.read inTwoLines = .ok r ∧
      Http.Request.read inOneLine = .ok r' ∧
      inTwoLines.headerLines f.wireName = ["a", "b, c"] ∧
      inOneLine.headerLines f.wireName = ["a,b, c"] ∧
      (∀ g ∈ fields, g.wireName = f.wireName → dec.IsHeaderSequence g) ∧
      dec.bind r type = dec.bind r' type ∧
      ((dec.bind r type).run textual).1 = .ok (labelled ["a", "b", "c"] "x") := by
  intro type t dec
  obtain ⟨f, g, r, r', hfields, hf, hname, hg, hr, hr', hlines, hlines', htop, htop', hbound⟩ :
      ∃ f g r r', dec.env.fields t = .ok [f, g] ∧ dec.IsHeaderSequence f ∧ f.wireName = "Label" ∧
        g.wireName = "Top" ∧ Http.Request.read inTwoLines = .ok r ∧
        Http.Request.read inOneLine = .ok r' ∧
        inTwoLines.headerLines f.wireName = ["a", "b, c"] ∧
        inOneLine.headerLines f.wireName = ["a,b, c"] ∧ dec.lookup r g = .ok ["x"] ∧
        dec.lookup r' g = .ok ["x"] ∧
        ((dec.bind r type).run textual).1 = .ok (labelled ["a", "b", "c"] "x") :=
    ⟨_, _, _, _, rfl, ⟨rfl, rfl⟩, rfl, rfl, rfl, rfl, rfl, rfl, rfl, rfl, rfl⟩
  have hne : g.wireName ≠ f.wireName := by
    rw [hname, hg]
    decide
  have hshared : ∀ g' ∈ [f, g], g'.wireName = f.wireName → dec.IsHeaderSequence g' := by
    simp [hf, hne]
  obtain ⟨-, -, hbinds⟩ := header_items_combined dec (a := type) (t := t) rfl hfields
    (show [f, g][0]? = some f from rfl) hf hr hr' (by simp [hlines]) (by simp [hlines'])
    (by rw [hlines, hlines']; rfl)
  refine ⟨_, f, r, r', rfl, hfields, rfl, hf, hr, hr', hlines, hlines', hshared, ?_, hbound⟩
  exact (hbinds fun g hg hname => .inl (hshared g hg hname)).2 (by simp [htop, htop'])

/-- **Beside a single text of the name, the lines matter**: one line and two lines that are the same
when they are joined are bound to different labels. -/
theorem split_header_differs :
    let type : TypeExpr := classExpr "Labels"
    let t : Descriptor := classType "Labels"
    let dec := parcelLabels "Label" "Label"
    let raw : Http.RawRequest := { headers := [("Label", "1,2")] }
    let raw' : Http.RawRequest := { headers := [("Label", "1"), ("Label", "2")] }
    ∃ fields f r r', describe type = .ok t ∧ dec.env.fields t = .ok fields ∧
      fields[0]? = some f ∧ f.name = "all" ∧ dec.IsHeaderSequence f ∧
      Http.Request.read raw = .ok r ∧ Http.Request.read raw' = .ok r' ∧
      raw.headerLines f.wireName = ["1,2"] ∧ raw'.headerLines f.wireName = ["1", "2"] ∧
      ",".intercalate ["1", "2"] = "1,2" ∧
      ((dec.bind r type).run textual).1 = .ok (labelled ["1,2"] "1,2") ∧
      ((dec.bind r' type).run textual).1 = .ok (labelled ["1", "2"] "1") :=
  ⟨_, _, _, _, rfl, rfl, rfl, rfl, ⟨rfl, rfl⟩, rfl, rfl, rfl, rfl, rfl, rfl, rfl⟩

end Decoder

end ApiShape
