/-!
Blank characters and trimming. Blank is wider than ASCII space: it takes in the no-break and
typographic spaces and the information separators, but not the zero-width space.
-/

namespace ApiShape.Text

/-- White space in the sense of Unicode, with the separators U+001C to U+001F. -/
def isBlank (c : Char) : Bool :=
  let n := c.toNat
  (9 ≤ n && n ≤ 13) || (0x1C ≤ n && n ≤ 0x20) || n == 0x85 || n == 0xA0 || n == 0x1680 ||
    (0x2000 ≤ n && n ≤ 0x200A) || n == 0x2028 || n == 0x2029 || n == 0x202F || n == 0x205F ||
    n == 0x3000

/-- Drops the characters that satisfy `p` from both ends. -/
def trimWhile (p : Char → Bool) (s : List Char) : List Char :=
  ((s.dropWhile p).reverse.dropWhile p).reverse

/-- Drops blanks from both ends. -/
def trim (s : List Char) : List Char := trimWhile isBlank s

/-- A blank in front is trimmed. -/
theorem trim_cons {c : Char} (h : isBlank c = true) (s : List Char) : trim (c :: s) = trim s := by
  rw [trim, trimWhile, List.dropWhile_cons_of_pos h]
  rfl

theorem dropWhile_eq_self {p : Char → Bool} {s : List Char} (h : ∀ c ∈ s.head?, p c = false) :
    s.dropWhile p = s := by
  cases s with
  | nil => rfl
  | cons c rest =>
    have hc : ¬ p c = true := by simp [h c rfl]
    exact List.dropWhile_cons_of_neg hc

/-- Nothing is dropped from a text whose ends do not satisfy `p`. -/
theorem trimWhile_eq_self {p : Char → Bool} {s : List Char} (hfirst : ∀ c ∈ s.head?, p c = false)
    (hlast : ∀ c ∈ s.getLast?, p c = false) : trimWhile p s = s := by
  rw [trimWhile, dropWhile_eq_self hfirst, dropWhile_eq_self (by rwa [List.head?_reverse]),
    List.reverse_reverse]

/-- What is dropped around a text does not have to stand in it. -/
theorem trimWhile_surround {p : Char → Bool} {c : Char} (hc : p c = true) {s : List Char}
    (h : ∀ d ∈ s, p d = false) : trimWhile p (c :: (s ++ [c])) = s := by
  cases s with
  | nil => simp [trimWhile, hc]
  | cons d rest =>
    have hd : ¬ p d = true := by simp [h d List.mem_cons_self]
    have hlast : ∀ e ∈ (d :: rest).reverse.head?, p e = false := fun e he =>
      h e (List.mem_reverse.1 (List.mem_of_mem_head? he))
    rw [trimWhile, List.dropWhile_cons_of_pos hc, List.cons_append, List.dropWhile_cons_of_neg hd,
      ← List.cons_append, List.reverse_append, List.reverse_singleton, List.singleton_append,
      List.dropWhile_cons_of_pos hc, dropWhile_eq_self hlast, List.reverse_reverse]

/-- Trimming adds nothing. -/
theorem mem_of_mem_trimWhile {p : Char → Bool} {c : Char} {s : List Char} (h : c ∈ trimWhile p s) :
    c ∈ s := by
  have hinner := (List.dropWhile_sublist p).mem (List.mem_reverse.1 h)
  exact (List.dropWhile_sublist p).mem (List.mem_reverse.1 hinner)

theorem mem_dropWhile {p : Char → Bool} {c : Char} {s : List Char} (h : c ∈ s) (hc : p c = false) :
    c ∈ s.dropWhile p := by
  induction s with
  | nil => cases h
  | cons d rest ih =>
    rw [List.dropWhile_cons]
    split
    · next hd =>
      rcases List.mem_cons.1 h with rfl | hrest
      · rw [hc] at hd
        cases hd
      · exact ih hrest
    · exact h

/-- Only characters that satisfy `p` are dropped. -/
theorem mem_trimWhile {p : Char → Bool} {c : Char} {s : List Char} (h : c ∈ s) (hc : p c = false) :
    c ∈ trimWhile p s :=
  List.mem_reverse.2 (mem_dropWhile (List.mem_reverse.2 (mem_dropWhile h hc)) hc)

end ApiShape.Text
