import ApiShape.Proofs.Multipart.Submission

/-!
# Which quoted parameters are read back

A header value is cut at every semicolon, whether it stands in quotes or not. So a semicolon in a
parameter's value ends that value, and what stands behind it is read as further parameters.

* **`not_mem_of_mem_params`** — no value that is read from any line holds a semicolon;
* `value_quotedHeader_ne_empty` — if there are parameters, the main value that is read is not empty;
* `get?_read_quotedHeader` — a parameter keeps its value if neither this value nor a later one holds
  a semicolon.

**`read_quotedHeader_eq_iff`** says which header values are read back, and what others keep.
-/

namespace ApiShape

namespace Header

open Text

variable {main : String} {params : List (String × String)}

/-! ## What is read -/

/-- A text with something besides blanks and semicolons has an item. -/
theorem items_ne_nil {c : Char} {s : List Char} (h : c ∈ s) (hc : c ≠ ';')
    (hblank : isBlank c = false) : items s ≠ [] := by
  obtain ⟨piece, hpiece, hmem⟩ := exists_mem_pieces h hc
  have hfull : trim piece ≠ [] := List.ne_nil_of_mem (mem_trimWhile hmem hblank)
  refine List.ne_nil_of_mem (List.mem_filter.2 ⟨List.mem_map_of_mem hpiece, ?_⟩)
  simpa using hfull

/-- No item has a semicolon in it. -/
theorem not_mem_of_mem_items {s item : List Char} (h : item ∈ items s) : ';' ∉ item := by
  obtain ⟨piece, hpiece, rfl⟩ := List.mem_map.1 (List.mem_filter.1 h).1
  exact fun hmem => not_mem_of_mem_pieces hpiece (mem_of_mem_trimWhile hmem)

/-- The value of a parameter is a part of its item. -/
theorem mem_of_param? {item : List Char} {p : String × String} (h : param? item = some p) {c : Char}
    (hc : c ∈ p.2.toList) : c ∈ item := by
  rw [param?] at h
  cases hcut : cut '=' item with
  | mk name value? =>
    rw [hcut] at h
    cases value? with
    | none => cases h
    | some value =>
      cases h
      rw [String.toList_ofList] at hc
      have hvalue : c ∈ value := mem_of_mem_trimWhile (mem_of_mem_trimWhile hc)
      rw [eq_of_cut hcut]
      exact List.mem_append_right name (List.mem_cons_of_mem '=' hvalue)

/-- **No value that is read from any line holds a semicolon.** -/
theorem not_mem_of_mem_params {line : String} {p : String × String}
    (h : p ∈ (read line).params.entries) : ';' ∉ p.2.toList := by
  rw [read] at h
  cases hitems : items line.toList with
  | nil =>
    rw [hitems] at h
    cases h
  | cons main rest =>
    rw [hitems] at h
    obtain ⟨item, hitem, hparam⟩ := List.mem_filterMap.1 (Table.mem_of_mem_entries_ofList h)
    have hline : item ∈ items line.toList := hitems ▸ List.mem_cons_of_mem main hitem
    exact fun hmem => not_mem_of_mem_items hline (mem_of_param? hparam hmem)

/-- The main value is empty only if there is nothing to read. -/
theorem value_ne_empty {line : String} (h : items line.toList ≠ []) : (read line).value ≠ "" := by
  rw [read]
  cases hitems : items line.toList with
  | nil => exact absurd hitems h
  | cons main rest =>
    have hmain : main ∈ items line.toList := hitems ▸ List.mem_cons_self
    have hfull : main ≠ [] := by simpa using (List.mem_filter.1 hmain).2
    intro hempty
    have hvalue : String.ofList (lower main) = "" := hempty
    have hlower : lower main = [] := by
      rw [← String.toList_ofList (l := lower main), hvalue]
      rfl
    exact lower_ne_nil hfull hlower

/-- Parameters without a main value in front of them still have one when they are read. -/
theorem value_quotedHeader_ne_empty (main : String) (hparams : params ≠ []) :
    (read (quotedHeader main params)).value ≠ "" := by
  obtain ⟨p, rest, rfl⟩ := List.exists_cons_of_ne_nil hparams
  have hparam : items (' ' :: quotedParam p) ≠ [] :=
    items_ne_nil (c := '=') (by simp [quotedParam]) (by decide) (by decide)
  apply value_ne_empty
  rw [items_quotedHeader, List.flatMap_cons]
  simp [hparam]

/-- Names in lower case are left as they are. -/
theorem map_lowerCase_eq_self (hnames : ∀ p ∈ params, lowerCase p.1 = p.1) :
    (params.map fun p => (lowerCase p.1, p.2)) = params := by
  refine (List.map_congr_left fun p hp => ?_).trans (List.map_id params)
  show (lowerCase p.1, p.2) = p
  rw [hnames p hp]

/-- **A parameter keeps its value if neither this value nor a later one holds a semicolon.** Values
in front of it may hold any. -/
theorem get?_read_quotedHeader (hmain : IsToken main) (before : List (String × String))
    {p : String × String} {after : List (String × String)}
    (hnames : ∀ q ∈ p :: after, IsToken q.1 ∧ lowerCase q.1 = q.1)
    (hdistinct : p.1 ∉ after.map (·.1)) (hvalues : ∀ q ∈ p :: after, IsQuotable q.2) :
    (read (quotedHeader main (before ++ p :: after))).params.get? p.1 = some p.2 := by
  have hread := readParams_of_quotable (fun q hq => (hnames q hq).1) hvalues
  rw [map_lowerCase_eq_self fun q hq => (hnames q hq).2] at hread
  rw [read_quotedHeader_eq hmain, Table.get?_ofList, readParams_append, hread]
  exact Table.lastOf?_append_cons _ hdistinct

/-! ## Reading back -/

/-- The characters of a main value such as `multipart/form-data`. -/
def isMainChar (c : Char) : Bool := c.isAlphanum || c = '-' || c = '/'

theorem isBoundaryChar_of_isMainChar {c : Char} (h : isMainChar c = true) :
    Multipart.isBoundaryChar c = true := by
  simp only [isMainChar, Bool.or_eq_true, decide_eq_true_eq] at h
  rcases h with (halphanum | rfl) | rfl
  · rw [Multipart.isBoundaryChar, halphanum, Bool.true_or]
  · decide +kernel
  · decide +kernel

theorem isToken_of_isMainChar (hchars : main.toList.all isMainChar = true) (hne : main ≠ "") :
    IsToken main := by
  have hascii : ∀ n : Fin 128, isMainChar (Char.ofNat n) = true →
      isBlank (Char.ofNat n) = false ∧ Char.ofNat n ≠ ';' ∧ Char.ofNat n ≠ '=' := by
    decide +kernel
  have hchar : ∀ c ∈ main.toList, isBlank c = false ∧ c ≠ ';' ∧ c ≠ '=' := by
    intro c hc
    have hmainChar : isMainChar c = true := List.all_eq_true.1 hchars c hc
    have hbound : c.toNat < 128 :=
      Multipart.toNat_lt_of_isBoundaryChar (isBoundaryChar_of_isMainChar hmainChar)
    have hchar := hascii ⟨c.toNat, hbound⟩
    rw [Char.ofNat_toNat] at hchar
    exact hchar hmainChar
  exact {
    ne_nil := fun hnil => hne (String.toList_eq_nil_iff.1 hnil)
    blank := fun c hc => (hchar c hc).1
    delimiters := ⟨fun hmem => (hchar _ hmem).2.1 rfl, fun hmem => (hchar _ hmem).2.2 rfl⟩ }

/-- Parameters without semicolons in their values are read back in order. -/
theorem read_quotedHeader_of_distinct (hmain : IsToken main)
    (hnames : ∀ p ∈ params, IsToken p.1 ∧ lowerCase p.1 = p.1)
    (hdistinct : (params.map (·.1)).Nodup) (hvalues : ∀ p ∈ params, IsQuotable p.2) :
    read (quotedHeader main params) = ⟨lowerCase main, ⟨params, hdistinct⟩⟩ := by
  rw [read_quotedHeader hmain (fun p hp => (hnames p hp).1) hvalues,
    map_lowerCase_eq_self fun p hp => (hnames p hp).2, Table.ofList_eq hdistinct]

/-- **Quoted parameters are read back exactly if no value holds a semicolon**, and if there is a
main value in front of them. For every main value of ASCII letters, digits, dashes and slashes and
all parameters with distinct lower-case names and values without quotes: a semicolon in a value,
which ends the value although it stands in quotes, cannot change the main value nor any later
parameter, but it can change its own parameter and the earlier ones. -/
theorem read_quotedHeader_eq_iff (hmain : main.toList.all isMainChar = true)
    (hnames : ∀ p ∈ params, IsToken p.1 ∧ lowerCase p.1 = p.1)
    (hdistinct : (params.map (·.1)).Nodup) (hquotes : ∀ p ∈ params, '"' ∉ p.2.toList) :
    (read (quotedHeader main params) = ⟨lowerCase main, ⟨params, hdistinct⟩⟩ ↔
      (main ≠ "" ∨ params = []) ∧ ∀ p ∈ params, ';' ∉ p.2.toList) ∧
    (main ≠ "" → (read (quotedHeader main params)).value = lowerCase main ∧
      ∀ before p after, params = before ++ p :: after →
        (∀ q ∈ p :: after, ';' ∉ q.2.toList) →
        (read (quotedHeader main params)).params.get? p.1 = some p.2) := by
  refine ⟨⟨fun hread => ⟨?_, fun p hp => ?_⟩, ?_⟩, fun hne => ⟨?_, ?_⟩⟩
  · -- nothing before the first semicolon: the parameter would be read as the value
    by_contra hnot
    obtain ⟨hempty, hparams⟩ := not_or.1 hnot
    obtain rfl : main = "" := not_not.1 hempty
    exact value_quotedHeader_ne_empty "" hparams (congrArg Header.value hread)
  · -- a piece of a header that was split at semicolons has none
    have hmem : p ∈ (read (quotedHeader main params)).params.entries := by rwa [hread]
    exact not_mem_of_mem_params hmem
  · rintro ⟨hmainOrNone, hvalues⟩
    by_cases hne : main = ""
    · obtain rfl := hmainOrNone.resolve_left (not_not.2 hne)
      subst hne
      rfl
    · exact read_quotedHeader_of_distinct (isToken_of_isMainChar hmain hne) hnames hdistinct
        fun p hp => ⟨hvalues p hp, hquotes p hp⟩
  · rw [read_quotedHeader_eq (isToken_of_isMainChar hmain hne)]
  · -- a later parameter of the same name would win, but names are distinct
    rintro before p after rfl hvalues
    have hlater : ∀ q ∈ p :: after, q ∈ before ++ p :: after := fun q hq =>
      List.mem_append_right before hq
    have hnew : p.1 ∉ after.map (·.1) := by
      rw [List.map_append, List.map_cons] at hdistinct
      exact (List.nodup_cons.1 (List.nodup_append.1 hdistinct).2.1).1
    exact get?_read_quotedHeader (isToken_of_isMainChar hmain hne) before
      (fun q hq => hnames q (hlater q hq)) hnew
      fun q hq => ⟨hvalues q hq, hquotes q (hlater q hq)⟩

/-- A name with other separators in it is read back. In front of it, a file name with a semicolon
loses its end, and the part still keeps its name. -/
theorem read_quotedHeader_eq_iff_name :
    let plain := [("name", "a=b, c"), ("filename", " x.txt")]
    let cut := [("filename", "x; name=b"), ("name", "a")]
    "Form-Data".toList.all isMainChar = true ∧
      (∀ p ∈ plain ++ cut, IsToken p.1 ∧ lowerCase p.1 = p.1) ∧
      (plain.map (·.1)).Nodup ∧ (cut.map (·.1)).Nodup ∧ (∀ p ∈ plain ++ cut, '"' ∉ p.2.toList) ∧
      read (quotedHeader "Form-Data" plain) = ⟨"form-data", .ofList plain⟩ ∧
      read (quotedHeader "Form-Data" cut) ≠ ⟨"form-data", .ofList cut⟩ ∧
      (read (quotedHeader "Form-Data" cut)).value = "form-data" ∧
      (read (quotedHeader "Form-Data" cut)).params.get? "name" = some "a" := by
  intro plain cut
  have hmain : "Form-Data".toList.all isMainChar = true := by decide +kernel
  have hnames : ∀ p ∈ plain ++ cut, IsToken p.1 ∧ lowerCase p.1 = p.1 := by decide +kernel
  have hquotes : ∀ p ∈ plain ++ cut, '"' ∉ p.2.toList := by decide +kernel
  have hplain : (plain.map (·.1)).Nodup := by decide +kernel
  have hcut : (cut.map (·.1)).Nodup := by decide +kernel
  have hfree : ∀ p ∈ plain, ';' ∉ p.2.toList := by decide +kernel
  have hheld : ¬ ∀ p ∈ cut, ';' ∉ p.2.toList := by decide +kernel
  have hlast : ∀ q ∈ [("name", "a")], ';' ∉ q.2.toList := by decide +kernel
  have hlower : lowerCase "Form-Data" = "form-data" := by decide +kernel
  have hne : "Form-Data" ≠ "" := by decide +kernel
  obtain ⟨hread, -⟩ := read_quotedHeader_eq_iff hmain
    (fun p hp => hnames p (List.mem_append_left cut hp)) hplain
    fun p hp => hquotes p (List.mem_append_left cut hp)
  obtain ⟨hlost, hkept⟩ := read_quotedHeader_eq_iff hmain
    (fun p hp => hnames p (List.mem_append_right plain hp)) hcut
    fun p hp => hquotes p (List.mem_append_right plain hp)
  obtain ⟨hvalue, hlater⟩ := hkept hne
  rw [hlower, ← Table.ofList_eq] at hread hlost
  rw [hlower] at hvalue
  have hname := hlater [("filename", "x; name=b")] ("name", "a") [] rfl hlast
  exact ⟨hmain, hnames, hplain, hcut, hquotes, hread.2 ⟨.inl hne, hfree⟩,
    fun heq => hheld (hlost.1 heq).2, hvalue, hname⟩

/-- The character is no quote, no backslash and no control character. -/
def isPlain (c : Char) : Bool :=
  !"\"\\".toList.contains c && ((32 ≤ c.toNat && c.toNat < 127) || 160 ≤ c.toNat)

/-- A file name without quotes, backslashes and control characters renames the part. -/
theorem filename_renames_part :
    let params := [("name", "a"), ("filename", "x; name=b")]
    let header := quotedHeader "form-data" params
    "form-data".toList.all isMainChar = true ∧
      (∀ p ∈ params, IsToken p.1 ∧ lowerCase p.1 = p.1) ∧ (params.map (·.1)).Nodup ∧
      (∀ p ∈ params, p.2.toList.all isPlain = true) ∧
      header = "form-data; name=\"a\"; filename=\"x; name=b\"" ∧
      (read header).params.entries = [("name", "b"), ("filename", "x")] ∧
      (Multipart.Part.ofHeaders (Table.ofList [("content-disposition", header)])).name =
        some "b" := by
  decide +kernel

end Header

end ApiShape
