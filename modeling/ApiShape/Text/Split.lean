/-!
Cutting text and byte sequences: at the first separator, at every separator, at line ends, and at
the first occurrence of a longer marker. Every cut keeps all characters but the separators.
-/

namespace ApiShape.Text

variable {α : Type} [DecidableEq α]

/-- The part before the first `sep`, and the part after it if there is one. -/
def cut (sep : α) : List α → List α × Option (List α)
  | [] => ([], none)
  | c :: rest =>
    if c = sep then ([], some rest)
    else
      let (before, after) := cut sep rest
      (c :: before, after)

/-- Puts a character in front of the first piece. -/
def consHead (c : α) : List (List α) → List (List α)
  | [] => [[c]]
  | piece :: pieces => (c :: piece) :: pieces

/-- The pieces between the separators: one more than there are separators. -/
def pieces (sep : α) : List α → List (List α)
  | [] => [[]]
  | c :: rest => if c = sep then [] :: pieces sep rest else consHead c (pieces sep rest)

/-- The lines between the CRLF pairs; a lone CR or LF does not end a line. -/
def lines : List Char → List (List Char)
  | [] => [[]]
  | '\r' :: '\n' :: rest => [] :: lines rest
  | c :: rest => consHead c (lines rest)

/-- What stands before and after the first occurrence of `marker`. -/
def cutAt? (marker : List α) : List α → Option (List α × List α)
  | [] => if marker = [] then some ([], []) else none
  | c :: rest =>
    if marker.isPrefixOf (c :: rest) then some ([], (c :: rest).drop marker.length)
    else (cutAt? marker rest).map fun (before, after) => (c :: before, after)

/-- The text with `sep` put between the pieces. -/
def join (sep : α) : List (List α) → List α
  | [] => []
  | [piece] => piece
  | piece :: rest => piece ++ sep :: join sep rest

/-- A text is cut at the first separator. -/
theorem cut_append {sep : α} {before : List α} (h : sep ∉ before) (after : List α) :
    cut sep (before ++ sep :: after) = (before, some after) := by
  induction before with
  | nil => simp [cut]
  | cons c rest ih =>
    have hc : c ≠ sep := fun heq => h (heq ▸ List.mem_cons_self)
    rw [List.cons_append, cut, if_neg hc, ih (fun hmem => h (List.mem_cons_of_mem c hmem))]

/-- A text that is cut consists of both sides and the separator. -/
theorem eq_of_cut {sep : α} {s before after : List α} (h : cut sep s = (before, some after)) :
    s = before ++ sep :: after := by
  induction s generalizing before with
  | nil => cases h
  | cons c rest ih =>
    rw [cut] at h
    split at h
    · next hc =>
      cases h
      rw [hc, List.nil_append]
    · cases hrest : cut sep rest with
      | mk first more =>
        rw [hrest] at h
        cases h
        rw [ih hrest, List.cons_append]

/-- A line end divides a line from the rest. -/
theorem lines_append {line : List Char} (h : '\r' ∉ line) (rest : List Char) :
    lines (line ++ '\r' :: '\n' :: rest) = line :: lines rest := by
  induction line with
  | nil => rfl
  | cons c line ih =>
    rw [List.cons_append, lines, ih (fun hmem => h (List.mem_cons_of_mem c hmem))]
    · rfl
    · rintro rest' rfl
      exact absurd List.mem_cons_self h

/-- A text without a line end is one line. -/
theorem lines_of_not_mem {line : List Char} (h : '\r' ∉ line) : lines line = [line] := by
  induction line with
  | nil => rfl
  | cons c line ih =>
    rw [lines, ih (fun hmem => h (List.mem_cons_of_mem c hmem))]
    · rfl
    · rintro rest' rfl
      exact absurd List.mem_cons_self h

/-- The lines of texts joined by CRLF are the texts. -/
theorem lines_intercalate {texts : List (List Char)} (hne : texts ≠ [])
    (h : ∀ line ∈ texts, '\r' ∉ line) : lines (['\r', '\n'].intercalate texts) = texts := by
  induction texts with
  | nil => exact absurd rfl hne
  | cons line rest ih =>
    have hline := h line List.mem_cons_self
    cases rest with
    | nil => rw [List.intercalate_singleton, lines_of_not_mem hline]
    | cons next rest =>
      rw [List.intercalate_cons_cons, List.append_assoc, List.cons_append, List.cons_append,
        List.nil_append, lines_append hline, ih (List.cons_ne_nil next rest)
        (fun l hl => h l (List.mem_cons_of_mem line hl))]

/-- Every text has a piece. -/
theorem pieces_ne_nil (sep : α) (s : List α) : pieces sep s ≠ [] := by
  cases s with
  | nil => simp [pieces]
  | cons c rest =>
    simp only [pieces]
    split
    · simp
    · cases pieces sep rest <;> simp [consHead]

/-- A text without a separator is one piece. -/
theorem pieces_of_not_mem {sep : α} {s : List α} (h : sep ∉ s) : pieces sep s = [s] := by
  induction s with
  | nil => rfl
  | cons c rest ih =>
    have hc : c ≠ sep := fun heq => h (heq ▸ List.mem_cons_self)
    rw [pieces, if_neg hc, ih fun hmem => h (List.mem_cons_of_mem c hmem)]
    rfl

/-- A text is cut at a separator, and what stands on either side of it is cut on its own. -/
theorem pieces_append (sep : α) (before after : List α) :
    pieces sep (before ++ sep :: after) = pieces sep before ++ pieces sep after := by
  induction before with
  | nil => simp [pieces]
  | cons c rest ih =>
    rw [List.cons_append, pieces, pieces, ih]
    split
    · rw [List.cons_append]
    · obtain ⟨piece, more, hpieces⟩ := List.exists_cons_of_ne_nil (pieces_ne_nil sep rest)
      rw [hpieces, List.cons_append, consHead, consHead, List.cons_append]

/-- No piece holds a separator. -/
theorem not_mem_of_mem_pieces {sep : α} {piece s : List α} (h : piece ∈ pieces sep s) :
    sep ∉ piece := by
  induction s generalizing piece with
  | nil =>
    obtain rfl : piece = [] := List.mem_singleton.1 h
    exact List.not_mem_nil
  | cons c rest ih =>
    rw [pieces] at h
    split at h
    · rcases List.mem_cons.1 h with rfl | h
      · exact List.not_mem_nil
      · exact ih h
    · next hc =>
      obtain ⟨first, more, hpieces⟩ := List.exists_cons_of_ne_nil (pieces_ne_nil sep rest)
      rw [hpieces] at h ih
      rcases List.mem_cons.1 h with rfl | h
      · rw [List.mem_cons, not_or]
        exact ⟨fun heq => hc heq.symm, ih List.mem_cons_self⟩
      · exact ih (List.mem_cons_of_mem first h)

/-- Joining the pieces gives back the text. -/
theorem join_pieces (sep : α) (s : List α) : join sep (pieces sep s) = s := by
  induction s with
  | nil => rfl
  | cons c rest ih =>
    have hne := pieces_ne_nil sep rest
    by_cases h : c = sep
    · subst h
      simp only [pieces, if_true]
      cases hp : pieces c rest with
      | nil => exact absurd hp hne
      | cons p ps => rw [hp] at ih; simp [join, ih]
    · simp only [pieces, h, if_false]
      cases hp : pieces sep rest with
      | nil => exact absurd hp hne
      | cons p ps =>
        rw [hp] at ih
        cases ps with
        | nil => simp_all [consHead, join]
        | cons q qs => simp_all [consHead, join]

omit [DecidableEq α] in
theorem exists_mem_of_mem_join {sep c : α} {texts : List (List α)} (h : c ∈ join sep texts)
    (hc : c ≠ sep) : ∃ text ∈ texts, c ∈ text := by
  induction texts with
  | nil => cases h
  | cons text rest ih =>
    cases rest with
    | nil => exact ⟨text, List.mem_cons_self, h⟩
    | cons next rest =>
      have hsplit : c ∈ text ++ sep :: join sep (next :: rest) := h
      rcases List.mem_append.1 hsplit with hfirst | hlater
      · exact ⟨text, List.mem_cons_self, hfirst⟩
      · obtain ⟨found, hfound, hmem⟩ := ih ((List.mem_cons.1 hlater).resolve_left hc)
        exact ⟨found, List.mem_cons_of_mem text hfound, hmem⟩

/-- Every character but the separator stands in a piece. -/
theorem exists_mem_pieces {sep c : α} {s : List α} (h : c ∈ s) (hc : c ≠ sep) :
    ∃ piece ∈ pieces sep s, c ∈ piece := by
  rw [← join_pieces sep s] at h
  exact exists_mem_of_mem_join h hc

/-- A cut keeps all but the marker. -/
theorem length_of_cutAt? {marker s before after : List α}
    (h : cutAt? marker s = some (before, after)) :
    before.length + marker.length + after.length = s.length := by
  induction s generalizing before with
  | nil =>
    simp only [cutAt?] at h
    split at h <;> simp_all
  | cons c rest ih =>
    simp only [cutAt?] at h
    split at h
    · next hp =>
      have hlen := (List.isPrefixOf_iff_prefix.1 hp).length_le
      simp only [Option.some.injEq, Prod.mk.injEq] at h
      obtain ⟨rfl, rfl⟩ := h
      simp only [List.length_drop, List.length_nil]
      omega
    · simp only [Option.map_eq_some_iff, Prod.mk.injEq] at h
      obtain ⟨⟨b, a⟩, hb, rfl, rfl⟩ := h
      have := ih hb
      simp only [List.length_cons] at this ⊢
      omega

end ApiShape.Text
