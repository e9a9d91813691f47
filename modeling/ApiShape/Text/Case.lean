import ApiShape.Text.CaseTable

/-!
Lower and upper case of text. ASCII letters take the short way; other letters are looked up. A
capital sigma that ends a word becomes the final sigma.
-/

namespace ApiShape.Text

private def inRanges (ranges : List (Nat × Nat)) (n : Nat) : Bool :=
  ranges.any fun r => r.1 ≤ n && n ≤ r.2

/-- The character has case and is not skipped when looking for a neighbour. -/
def isCased (c : Char) : Bool := inRanges casedRanges c.toNat

/-- The character is skipped when looking for a neighbouring letter. -/
def isCaseIgnorable (c : Char) : Bool := inRanges caseIgnorableRanges c.toNat

private def shifted (runs : List CaseRun) (c : Char) : Char :=
  match runs.find? (·.covers c.toNat) with
  | some run => Char.ofNat (c.toNat + run.shift).toNat
  | none => c

/-- The next character that is not skipped has case. -/
def nextIsCased (s : List Char) : Bool := (s.dropWhile isCaseIgnorable).head?.any isCased

/-- The lower case of one character between the reversed text before it and the text after it. -/
def lowerChar (before : List Char) (c : Char) (after : List Char) : List Char :=
  if c.toNat < 0x80 then [c.toLower]
  else if c = 'Σ' then [if nextIsCased before && !nextIsCased after then 'ς' else 'σ']
  else if c = 'İ' then ['i', Char.ofNat 0x307]
  else [shifted lowerRuns c]

/-- The lower case of `s` when it follows the reversed text `before`. -/
def lowerAfter (before : List Char) : List Char → List Char
  | [] => []
  | c :: rest => lowerChar before c rest ++ lowerAfter (c :: before) rest

/-- The text in lower case. -/
def lower (s : List Char) : List Char := lowerAfter [] s

/-- The upper case of one character, which may be several. -/
def upperChar (c : Char) : List Char :=
  if c.toNat < 0x80 then [c.toUpper]
  else match upperExpansions.find? (·.1 == c.toNat) with
    | some (_, letters) => letters.map Char.ofNat
    | none => [shifted upperRuns c]

/-- The text in upper case. -/
def upper (s : List Char) : List Char := s.flatMap upperChar

theorem lowerChar_ne_nil (before : List Char) (c : Char) (after : List Char) :
    lowerChar before c after ≠ [] := by
  rw [lowerChar]
  split
  · exact List.cons_ne_nil _ _
  · split
    · exact List.cons_ne_nil _ _
    · split <;> exact List.cons_ne_nil _ _

/-- No text is lost altogether. -/
theorem lower_ne_nil {s : List Char} (h : s ≠ []) : lower s ≠ [] := by
  obtain ⟨c, rest, rfl⟩ := List.exists_cons_of_ne_nil h
  exact List.append_ne_nil_of_left_ne_nil (lowerChar_ne_nil [] c rest) _

end ApiShape.Text
