import ApiShape.Proofs.Number.Decimals
import ApiShape.Proofs.Number.Rounding

/-!
# Finite doubles are read back from their written form

The written form of a double has the fewest digits that read back. The search for them gives a
decimal only after it has read it (`Double.ofScientific_shortest`); which one it gives does not
matter here. The digits are then written with a point between them, with zeros around them, or with
an exponent: each of these texts spells a decimal that is rounded to the same number
(`Double.Spells`).

* **`Double.read_toText`** — a number in canonical form is read back from its written form, with its
  sign.
* `Double.read_toText_of_not_isFinite` — NaN and the infinities are not.
-/

namespace ApiShape.Number

variable {negative : Bool} {m e c : Nat} {x : Int} {s ds : List Char}

namespace Double

/-! ## The fewest digits -/

theorem passes_of_nearestThat {p : Nat → Bool} {around : Nat × Nat × Nat × Nat}
    (h : nearestThat p around = some c) : p c = true := by
  have hcandidate {near far : Nat}
      (h : (if p near then some near else if p far then some far else none) = some c) :
      p c = true := by
    split at h
    · next hnear =>
      cases h
      exact hnear
    · split at h
      · next hfar =>
        cases h
        exact hfar
      · cases h
  unfold nearestThat at h
  dsimp only at h
  split at h
  · exact hcandidate h
  · exact hcandidate h

/-- A decimal is read before it is given. -/
theorem ofScientific_of_withDigits? {count : Nat} (h : withDigits? m e count = some (c, x)) :
    ofScientific false c x = finite false m e := by
  obtain ⟨c, hnearest, hpair⟩ := Option.map_eq_some_iff.1 h
  cases hpair
  exact eq_of_beq (passes_of_nearestThat hnearest)

/-- Zeros that are moved to the exponent leave the number as it is. Induction on the zeros. -/
theorem ofScientific_dropZeros (fuel c : Nat) (x : Int) :
    ofScientific negative (dropZeros fuel c x).1 (dropZeros fuel c x).2 =
      ofScientific negative c x := by
  induction fuel generalizing c x with
  | zero => rfl
  | succ fuel ih =>
    rw [dropZeros]
    split
    · next hzero =>
      have hten : c / 10 * 10 = c := by
        have : c ≠ 0 ∧ c % 10 = 0 := by simpa using hzero
        omega
      rw [ih, ← ofScientific_mul_ten, hten]
    · rfl

/-- **The shortest decimal reads back as the number.** -/
theorem ofScientific_shortest (h : Canonical m e) (hm : m ≠ 0) (negative : Bool) :
    ofScientific negative (shortest m e).1 (shortest m e).2 = finite negative m e := by
  apply ofScientific_sign
  rw [shortest]
  cases hfound : ((List.range 17).map (· + 1)).findSome? (withDigits? m e) with
  | some found =>
    obtain ⟨count, -, hcount⟩ := List.exists_of_findSome?_eq_some hfound
    rw [Option.elim_some, ofScientific_dropZeros]
    exact ofScientific_of_withDigits? hcount
  | none =>
    rw [Option.elim_none]
    exact ofScientific_exactCoefficient h hm

/-! ## The written form -/

/-- The text, with either sign, is that of a decimal that is rounded as `c · 10 ^ x` is. -/
def Spells (c : Nat) (x : Int) (text : List Char) : Prop :=
  ∀ negative, ∃ t : DecimalText, t.WrittenAs (if negative then '-' :: text else text) ∧
    ofDecimal t.value = ofScientific negative c x

theorem spells_of_pieces {whole fraction mantissa exponent : List Char} {k : Int}
    (hmantissa : MantissaText whole fraction mantissa)
    (hdigits : (whole ++ fraction).all isDigit = true) (hne : whole ++ fraction ≠ [])
    (hexponent : ExponentText k exponent)
    (hvalue : ∀ negative, ofScientific negative (ofDigits (whole ++ fraction))
      (k - fraction.length) = ofScientific negative c x) : Spells c x (mantissa ++ exponent) :=
  fun negative => ⟨⟨negative, whole, fraction, k⟩, .signed hmantissa hdigits hne hexponent,
    hvalue negative⟩

/-- A point between two of the digits. -/
theorem spells_take_drop {exponent : List Char} {k : Int} (hne : ds ≠ [])
    (h : ds.all isDigit = true) (whole : Nat) (hexponent : ExponentText k exponent) :
    Spells (ofDigits ds) (k - (ds.length - whole : Nat))
      ((ds.take whole ++ '.' :: ds.drop whole) ++ exponent) := by
  have hjoin := List.take_append_drop whole ds
  refine spells_of_pieces (.point _ _) (by rwa [hjoin]) (by rwa [hjoin]) hexponent
    fun negative => ?_
  rw [hjoin, List.length_drop]

/-- A point between digits that have the value of the decimal. -/
theorem spells_point {whole fraction : List Char} (hdigits : (whole ++ fraction).all isDigit = true)
    (hne : whole ++ fraction ≠ [])
    (hvalue : ∀ negative, ofScientific negative (ofDigits (whole ++ fraction)) (-fraction.length) =
      ofScientific negative c x) : Spells c x (whole ++ '.' :: fraction) := by
  have htext := spells_of_pieces (c := c) (x := x) (.point whole fraction) hdigits hne .none
  rw [List.append_nil] at htext
  refine htext fun negative => ?_
  rw [Int.zero_sub, hvalue]

/-- A point before all of the digits, with zeros behind it. -/
theorem spells_zeros_append (h : ds.all isDigit = true) (zeros : Nat) :
    Spells (ofDigits ds) (-zeros - ds.length) ('0' :: '.' :: List.replicate zeros '0' ++ ds) := by
  show Spells _ _ (['0'] ++ '.' :: (List.replicate zeros '0' ++ ds))
  refine spells_point (all_isDigit_zeros_append (zeros + 1) h) (List.cons_ne_nil _ _) ?_
  intro negative
  congr 1
  · show ofDigits (List.replicate (zeros + 1) '0' ++ ds) = ofDigits ds
    rw [ofDigits_append, ofDigits_replicate_zero, Nat.mul_zero, Nat.zero_add]
  · rw [List.length_append, List.length_replicate]
    omega

/-- A point behind all of the digits, with zeros before it. -/
theorem spells_append_zeros (h : ds.all isDigit = true) (zeros : Nat) :
    Spells (ofDigits ds) zeros (ds ++ List.replicate zeros '0' ++ ['.', '0']) := by
  -- the zero behind the point is one more zero
  have hjoin : ds ++ List.replicate zeros '0' ++ ['0'] = ds ++ List.replicate (zeros + 1) '0' := by
    rw [List.append_assoc, List.replicate_succ']
  have hdigits := all_isDigit_append_zeros h (zeros + 1)
  rw [← hjoin] at hdigits
  refine spells_point hdigits (List.append_ne_nil_of_right_ne_nil _ (List.cons_ne_nil _ _)) ?_
  intro negative
  rw [hjoin, ofDigits_append_zeros, ofScientific_mul_tenTo]
  congr 1
  show (-1 : Int) + (zeros + 1 : Nat) = zeros
  omega

/-- **Digits with a point somewhere spell the decimal**, zeros filled in on either side. -/
theorem spells_positional (hne : ds ≠ []) (h : ds.all isDigit = true) (whole : Int) :
    Spells (ofDigits ds) (whole - ds.length) (positional ds whole) := by
  unfold positional
  split
  · next hwhole =>
    have htext := spells_zeros_append h (-whole).toNat
    have hplaces : -((-whole).toNat : Int) = whole := by omega
    rwa [hplaces] at htext
  · next hwhole =>
    dsimp only
    split
    · next hlength =>
      have htext := spells_append_zeros h (whole.toNat - ds.length)
      have hplaces : ((whole.toNat - ds.length : Nat) : Int) = whole - ds.length := by omega
      rwa [hplaces] at htext
    · next hlength =>
      have htext := spells_take_drop hne h whole.toNat .none
      have hplaces : (0 : Int) - (ds.length - whole.toNat : Nat) = whole - ds.length := by omega
      rwa [hplaces, List.append_nil] at htext

/-- **Digits with a point behind the first and an exponent spell the decimal.** -/
theorem spells_scientific (hne : ds ≠ []) (h : ds.all isDigit = true) (leading : Int) :
    Spells (ofDigits ds) (leading - (ds.length - 1 : Nat)) (scientific ds leading) := by
  have hexponent : ExponentText leading
      ('e' :: (if leading < 0 then '-' else '+') :: padded 2 leading.natAbs) := by
    have hpadded : padded 2 leading.natAbs ≠ [] :=
      List.append_ne_nil_of_right_ne_nil _ Nat.toDigits_ne_nil
    exact exponentText_signed (.inl rfl) hpadded (all_isDigit_padded _ _) (ofDigits_padded _ _)
  unfold scientific
  dsimp only
  split
  · next hlength =>
    have hwhole : ds ++ [] = ds := List.append_nil ds
    have hplaces : ds.length - 1 = 0 := by omega
    refine spells_of_pieces (.whole ds) (by rwa [hwhole]) (by rwa [hwhole]) hexponent ?_
    intro negative
    rw [hwhole, hplaces]
    rfl
  · exact spells_take_drop hne h 1 hexponent

/-- **The written form spells the number.** -/
theorem spells_magnitudeText (e : Nat) (hm : m ≠ 0) :
    Spells (shortest m e).1 (shortest m e).2 (magnitudeText m e) := by
  rw [magnitudeText, if_neg hm]
  generalize shortest m e = found
  obtain ⟨c, x⟩ := found
  dsimp only
  have hne : digits c ≠ [] := Nat.toDigits_ne_nil
  have hall := all_isDigit_digits c
  have hcount : 0 < (digits c).length := List.length_pos_iff.2 hne
  split
  · have htext := spells_positional hne hall (x + (digits c).length - 1 + 1)
    have hplaces : x + (digits c).length - 1 + 1 - (digits c).length = x := by omega
    rwa [ofDigits_digits, hplaces] at htext
  · have htext := spells_scientific hne hall (x + (digits c).length - 1)
    have hplaces : x + (digits c).length - 1 - ((digits c).length - 1 : Nat) = x := by omega
    rwa [ofDigits_digits, hplaces] at htext

/-- The written form of a finite number is that of a decimal that is rounded to the number. -/
theorem exists_writtenAs_toText (h : Canonical m e) (negative : Bool) :
    ∃ t : DecimalText, t.WrittenAs (finite negative m e).toText ∧
      ofDecimal t.value = finite negative m e := by
  by_cases hm : m = 0
  · subst hm
    have hsmallest : e = 0 := h.full.resolve_right (by decide)
    subst hsmallest
    have htext : Spells 0 (-(0 : Nat) - 1) ['0', '.', '0'] :=
      spells_zeros_append (by decide : ['0'].all isDigit = true) 0
    exact htext negative
  · obtain ⟨t, hwritten, hvalue⟩ := spells_magnitudeText e hm negative
    exact ⟨t, hwritten, hvalue.trans (ofScientific_shortest h hm negative)⟩

/-! ## Reading -/

/-- **A text of a decimal is read as the number nearest to it.** -/
theorem read_of_writtenAs {raw : String} {t : DecimalText} (h : t.WrittenAs raw.toList) :
    Double.read raw = .ok (ofDecimal t.value) := by
  have hhead := h.head
  have hspan := h.span? ends_nil
  rw [List.append_nil] at hspan
  have hnan : (spanSign raw.toList).2 ≠ "NaN".toList := by
    intro heq
    rw [heq] at hhead
    exact absurd (hhead 'N' rfl) (by decide)
  have hinfinity : (spanSign raw.toList).2 ≠ "Infinity".toList := by
    intro heq
    rw [heq] at hhead
    exact absurd (hhead 'I' rfl) (by decide)
  unfold Double.read
  dsimp only
  rw [if_neg hnan, if_neg hinfinity, hspan]

/-- What is read comes of rounding. -/
theorem rounded_of_read {raw : String} {x : Double} (h : Double.read raw = .ok x) : x.Rounded := by
  unfold Double.read at h
  dsimp only at h
  split at h
  · cases h
    trivial
  · split at h
    · cases h
      trivial
    · split at h
      · cases h
        exact rounded_ofScientific ..
      · split at h
        · cases h
          exact rounded_ofScientific ..
        · cases h
      · cases h

/-- The number is neither NaN nor infinite. -/
def IsFinite : Double → Prop
  | nan | infinite _ => False
  | finite _ _ _ => True

/-- **A finite number is read back from its written form**, with its sign. -/
theorem read_toText {x : Double} (h : x.Rounded) (hfinite : x.IsFinite) :
    Double.read (String.ofList x.toText) = .ok x := by
  cases x with
  | nan | infinite _ => exact hfinite.elim
  | finite negative m e =>
    obtain ⟨t, hwritten, hvalue⟩ := exists_writtenAs_toText h negative
    rw [← String.toList_ofList (l := (finite negative m e).toText)] at hwritten
    rw [read_of_writtenAs hwritten, hvalue]

/-- One digit is enough for the smallest number. -/
example : (finite true 1 0).toText = "-5e-324".toList := by decide +kernel

/-- **NaN and the infinities are not read back**: they are written in lower case, and the infinities
in short. -/
theorem read_toText_of_not_isFinite {x : Double} (h : ¬ x.IsFinite) :
    Double.read (String.ofList x.toText) =
      .error (.fault (.notANumber (String.ofList x.toText))) := by
  cases x with
  | nan => rfl
  | infinite negative => cases negative <;> rfl
  | finite => exact absurd trivial h

end Double

end ApiShape.Number
