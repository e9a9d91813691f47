import ApiShape.Types.Namer
import Mathlib.Data.List.Basic
import Mathlib.Data.Set.Function

/-!
# Default names are unique

The default name of a type is flat: the words of the tree in preorder, with underscores between them
and no brackets. It can still be told from all others where every class takes a fixed number of
arguments.

* `Vocabulary`, `Vocabulary.Builds` — classes with simple names of their own, and the types that are
  built from them without unions.
* `Descriptor.words` — the words of a name, one more for every argument that admits null.
* **`Vocabulary.segment_eq`** — the name is its words joined by underscores.
* **`Vocabulary.words_append_inj`** — words that begin with those of a type determine the type and
  what is left.
* **`Vocabulary.default_ne`** — so different types have different names.
-/

namespace ApiShape

/-! ## Vocabularies -/

/-- The text is a simple name: not empty, and nothing but ASCII letters and digits. -/
structure IsWord (s : String) : Prop where
  ne_empty : s ≠ ""
  alphanumeric : ∀ c ∈ s.toList, c.isAlphanum = true

theorem isWord_of_all {s : String} (hne : s ≠ "") (h : s.toList.all Char.isAlphanum = true) :
    IsWord s :=
  ⟨hne, List.all_eq_true.1 h⟩

/-- Classes with simple names of their own, none of them the word for null, each with the number of
its arguments. A union is no class. -/
structure Vocabulary where
  classes : Set Origin
  arity : Origin → Nat
  not_union : .union ∉ classes
  word : ∀ o ∈ classes, IsWord o.name
  not_optional : ∀ o ∈ classes, o.name ≠ "Optional"
  distinct : Set.InjOn Origin.name classes

/-- The type is built from the classes, at any depth and with any nullability, each of them applied
to the number of its arguments. -/
inductive Vocabulary.Builds (v : Vocabulary) : Descriptor → Prop
  | mk {origin : Origin} {args : List Descriptor} (nullable : Bool) (horigin : origin ∈ v.classes)
      (hlength : args.length = v.arity origin) (hargs : ∀ d ∈ args, v.Builds d) :
      v.Builds ⟨origin, args, nullable⟩

/-! ## Words -/

/-- The word for a type that admits null. -/
def nullWords (nullable : Bool) : List String := if nullable then ["Optional"] else []

mutual

/-- The words of the name of a type that is no union. -/
def Descriptor.words : Descriptor → List String
  | ⟨origin, args, nullable⟩ => nullWords nullable ++ origin.name :: allWords args

/-- The words of the names of the types of a list. -/
def allWords : List Descriptor → List String
  | [] => []
  | d :: ds => d.words ++ allWords ds

end

/-- Every type has a word. -/
theorem Descriptor.words_ne_nil (d : Descriptor) : d.words ≠ [] := by
  obtain ⟨origin, args, nullable⟩ := d
  rw [words]
  exact List.append_ne_nil_of_right_ne_nil _ (List.cons_ne_nil _ _)

/-- The words of types stand one after the other. -/
theorem allWords_eq (ds : List Descriptor) : allWords ds = ds.flatMap Descriptor.words := by
  induction ds with
  | nil => rfl
  | cons d ds ih => rw [allWords, ih, List.flatMap_cons]

/-- All words of the name of a type that is built from a vocabulary are simple names. -/
theorem Vocabulary.Builds.isWord {v : Vocabulary} {d : Descriptor} (h : v.Builds d) :
    ∀ w ∈ d.words, IsWord w := by
  induction h with
  | @mk origin args nullable horigin _ _ ih =>
    intro w hw
    rw [Descriptor.words, allWords_eq, List.mem_append, List.mem_cons, List.mem_flatMap] at hw
    rcases hw with hnull | rfl | ⟨d, hd, hw⟩
    · cases nullable with
      | false => exact absurd hnull List.not_mem_nil
      | true =>
        obtain rfl := List.mem_singleton.1 hnull
        exact isWord_of_all (by decide) (by decide)
    · exact v.word origin horigin
    · exact ih d hd w hw

/-! ## Joining -/

theorem IsWord.underscore_not_mem {s : String} (h : IsWord s) : '_' ∉ s.toList := by
  intro hmem
  exact absurd (h.alphanumeric '_' hmem) (by decide)

/-- Words can be read back from the text that they are joined to. -/
theorem intercalate_injective {ws us : List String} (hws : ∀ w ∈ ws, IsWord w)
    (hus : ∀ w ∈ us, IsWord w) (hne : ws ≠ []) (hne' : us ≠ [])
    (h : "_".intercalate ws = "_".intercalate us) : ws = us := by
  have hsplit : ∀ ws : List String, (∀ w ∈ ws, IsWord w) → ws ≠ [] →
      ("_".intercalate ws).toList.splitOn '_' = ws.map String.toList := by
    intro ws hws hne
    rw [String.toList_intercalate]
    refine List.splitOn_intercalate '_' ?_ (by simpa using hne)
    intro l hl
    obtain ⟨w, hw, rfl⟩ := List.mem_map.1 hl
    exact (hws w hw).underscore_not_mem
  have hlists : ws.map String.toList = us.map String.toList := by
    rw [← hsplit ws hws hne, ← hsplit us hus hne', h]
  exact List.map_injective_iff.2 (fun _ _ => String.toList_injective) hlists

/-- Words that have been joined already may be joined to the rest. -/
theorem intercalate_intercalate_cons {sep : String} {ws : List String} (hne : ws ≠ [])
    (rest : List String) :
    sep.intercalate (sep.intercalate ws :: rest) = sep.intercalate (ws ++ rest) := by
  cases rest with
  | nil => rw [String.intercalate_singleton, List.append_nil]
  | cons r rest =>
    rw [String.intercalate_cons_cons,
      String.intercalate_append_of_ne_nil hne (List.cons_ne_nil r rest)]

/-! ## Names -/

namespace Namer

/-- Nothing of the text has to be replaced in a component name. -/
def AllSafe (s : String) : Prop := ∀ c ∈ s.toList, isSafe c = true

/-- Safe characters stay as they are. -/
theorem sanitiseFrom_of_safe {delimiter s : List Char} {inRun : Bool}
    (h : ∀ c ∈ s, isSafe c = true) : sanitiseFrom delimiter inRun s = s := by
  induction s generalizing inRun with
  | nil => rfl
  | cons c rest ih =>
    rw [sanitiseFrom, if_pos (h c List.mem_cons_self),
      ih fun c' hc' => h c' (List.mem_cons_of_mem c hc')]

theorem sanitise_of_allSafe {delimiter s : String} (h : AllSafe s) : sanitise delimiter s = s := by
  rw [sanitise, sanitiseFrom_of_safe h, String.ofList_toList]

theorem allSafe_of_isWord {s : String} (h : IsWord s) : AllSafe s := by
  intro c hc
  simp [isSafe, h.alphanumeric c hc]

theorem allSafe_append {s t : String} (hs : AllSafe s) (ht : AllSafe t) : AllSafe (s ++ t) := by
  intro c hc
  rw [String.toList_append, List.mem_append] at hc
  exact hc.elim (hs c) (ht c)

/-- Words joined by underscores are safe. -/
theorem allSafe_intercalate {ws : List String} (h : ∀ w ∈ ws, IsWord w) :
    AllSafe ("_".intercalate ws) := by
  induction ws with
  | nil => simp [AllSafe]
  | cons w ws ih =>
    have hw : AllSafe w := allSafe_of_isWord (h w List.mem_cons_self)
    have hrest := ih fun w' hw' => h w' (List.mem_cons_of_mem w hw')
    cases ws with
    | nil => rwa [String.intercalate_singleton]
    | cons w' ws =>
      rw [String.intercalate_cons_cons]
      exact allSafe_append (allSafe_append hw (by simp [AllSafe, isSafe])) hrest

/-- The names of arguments may be replaced by their words. -/
theorem intercalate_segments {ds : List Descriptor}
    (h : ∀ d ∈ ds, segment Origin.name "_" d = "_".intercalate d.words) (head : String) :
    "_".intercalate (head :: segments Origin.name "_" ds) =
      "_".intercalate (head :: allWords ds) := by
  induction ds generalizing head with
  | nil => rfl
  | cons d ds ih =>
    have hrest := ih fun d' hd' => h d' (List.mem_cons_of_mem d hd')
    have hne : allWords (d :: ds) ≠ [] := List.append_ne_nil_of_left_ne_nil d.words_ne_nil _
    rw [segments, String.intercalate_cons_cons, hrest, h d List.mem_cons_self,
      intercalate_intercalate_cons d.words_ne_nil, ← allWords,
      String.intercalate_cons_of_ne_nil hne]

end Namer

variable {v : Vocabulary} {d e : Descriptor}

/-- **The name of a type is its words joined by underscores**, and nothing in them is replaced. -/
theorem Vocabulary.segment_eq (h : v.Builds d) :
    Namer.segment Origin.name "_" d = "_".intercalate d.words := by
  have hwords := h.isWord
  induction h with
  | @mk origin args nullable horigin _ hargs ih =>
    have hunion : origin ≠ .union := by
      rintro rfl
      exact v.not_union horigin
    have hjoined := Namer.intercalate_segments (fun d hd => ih d hd (hargs d hd).isWord) origin.name
    have htext :
        (if nullable then "Optional" ++ "_" ++ "_".intercalate (origin.name :: allWords args)
        else "_".intercalate (origin.name :: allWords args)) =
        "_".intercalate (Descriptor.words ⟨origin, args, nullable⟩) := by
      cases nullable with
      | false => rfl
      | true => exact String.intercalate_cons_cons.symm
    rw [Namer.segment, if_neg hunion, hjoined, htext]
    exact Namer.sanitise_of_allSafe (Namer.allSafe_intercalate hwords)

/-! ## Reading words back -/

/-- The words of arguments determine them and what is left, if the words of each do. -/
theorem allWords_append_inj {ds es : List Descriptor} {r s : List String}
    (hread : ∀ d ∈ ds, ∀ e r s, v.Builds e → d.words ++ r = e.words ++ s → d = e ∧ r = s)
    (hes : ∀ e ∈ es, v.Builds e) (hlength : ds.length = es.length)
    (h : allWords ds ++ r = allWords es ++ s) : ds = es ∧ r = s := by
  induction ds generalizing es with
  | nil =>
    obtain rfl := List.length_eq_zero_iff.1 hlength.symm
    exact ⟨rfl, h⟩
  | cons d ds ih =>
    cases es with
    | nil => cases hlength
    | cons e es =>
      rw [allWords, allWords, List.append_assoc, List.append_assoc] at h
      obtain ⟨rfl, hrest⟩ := hread d List.mem_cons_self e _ _ (hes e List.mem_cons_self) h
      obtain ⟨rfl, hleft⟩ := ih (fun d' hd' => hread d' (List.mem_cons_of_mem d hd'))
        (fun e' he' => hes e' (List.mem_cons_of_mem d he')) (Nat.succ.inj hlength) hrest
      exact ⟨rfl, hleft⟩

/-- **Words that begin with those of a type determine the type and what is left.** Induction on the
type: the first word tells whether it admits null, the next one its class, and that one how many
arguments follow. -/
theorem Vocabulary.words_append_inj (hd : v.Builds d) (he : v.Builds e) {r s : List String}
    (h : d.words ++ r = e.words ++ s) : d = e ∧ r = s := by
  induction hd generalizing e r s with
  | @mk origin args nullable horigin hlength _ ih =>
    obtain @⟨origin', args', nullable', horigin', hlength', hargs'⟩ := he
    rw [Descriptor.words, Descriptor.words, List.append_assoc, List.append_assoc] at h
    have hsame : nullable = nullable' ∧
        origin.name :: allWords args ++ r = origin'.name :: allWords args' ++ s := by
      -- no class has the name that marks null, so both begin with it or neither does
      cases nullable <;> cases nullable'
      · exact ⟨rfl, h⟩
      · exact absurd (List.cons.inj h).1 (v.not_optional origin horigin)
      · exact absurd (List.cons.inj h).1.symm (v.not_optional origin' horigin')
      · exact ⟨rfl, (List.cons.inj h).2⟩
    obtain ⟨rfl, hclass⟩ := hsame
    obtain ⟨hname, hrest⟩ := List.cons.inj hclass
    obtain rfl := v.distinct horigin horigin' hname
    obtain ⟨rfl, hleft⟩ := allWords_append_inj (fun d hd _ _ _ he => ih d hd he) hargs'
      (hlength.trans hlength'.symm) hrest
    exact ⟨rfl, hleft⟩

/-- **Different types have different names**, if both are built from the same classes with simple
names and fixed numbers of arguments and neither admits null itself. -/
theorem Vocabulary.default_ne (hd : v.Builds d) (he : v.Builds e) (hdnull : d.nullable = false)
    (henull : e.nullable = false) (hne : d ≠ e) : Namer.default d ≠ Namer.default e := by
  have hnonNull : ∀ {d : Descriptor}, d.nullable = false → d.nonNull = d := by
    rintro ⟨_, _, _⟩ ⟨⟩
    rfl
  intro hname
  rw [Namer.default, Namer.joined, Namer.joined, hnonNull hdnull, hnonNull henull, v.segment_eq hd,
    v.segment_eq he] at hname
  have hwords := intercalate_injective hd.isWord he.isWord d.words_ne_nil e.words_ne_nil hname
  have hsame : d.words ++ [] = e.words ++ [] := by rw [hwords]
  exact hne (v.words_append_inj hd he hsame).1

/-- Lists, of lists or of numbers. -/
def listsOfNumbers : Vocabulary where
  classes := {.container .list, .named (.builtin .int)}
  arity o := if o = .container .list then 1 else 0
  not_union := by simp
  word := by
    rintro o (rfl | rfl)
    · exact isWord_of_all (by decide) (by decide)
    · exact isWord_of_all (by decide) (by decide)
  not_optional := by
    rintro o (rfl | rfl) <;> decide
  distinct := by
    rintro o (rfl | rfl) p (rfl | rfl) hname
    · rfl
    · exact absurd hname (by decide)
    · exact absurd hname (by decide)
    · rfl

theorem builds_int (nullable : Bool) :
    listsOfNumbers.Builds ⟨.named (.builtin .int), [], nullable⟩ :=
  .mk nullable (.inr rfl) rfl fun _ hd => absurd hd List.not_mem_nil

theorem builds_list {d : Descriptor} (h : listsOfNumbers.Builds d) (nullable : Bool) :
    listsOfNumbers.Builds ⟨.container .list, [d], nullable⟩ := by
  refine .mk nullable (.inl rfl) rfl fun d' hd' => ?_
  obtain rfl := List.mem_singleton.1 hd'
  exact h

/-- It makes a difference which of the nested types may be null. -/
theorem default_ne_nested :
    Namer.default ⟨.container .list,
        [⟨.container .list, [⟨.named (.builtin .int), [], false⟩], true⟩], false⟩ ≠
      Namer.default ⟨.container .list,
        [⟨.container .list, [⟨.named (.builtin .int), [], true⟩], false⟩], false⟩ :=
  Vocabulary.default_ne (builds_list (builds_list (builds_int false) true) false)
    (builds_list (builds_list (builds_int true) false) false) rfl rfl (by decide)

end ApiShape
