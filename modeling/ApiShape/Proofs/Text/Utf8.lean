import ApiShape.Text.Charset

/-!
# Reading back what was written in UTF-8

* **`head_utf8EncodeChar`** — the bytes of a character are read as that character, whatever follows;
* **`decodeLossy_flatMap`**, **`decode_encode`** — so the bytes of a text are read as that text, by
  lossy and by strict reading;
* `mem_of_mem_flatMap` — the byte of an ASCII character stands only where the character does, so
  that text without CR and LF has no byte that looks like one;
* `encodeLatin1From_of_ascii` — ASCII text has the same form in Latin-1.
-/

namespace ApiShape.Text.Utf8

open String (utf8EncodeChar)

/-! ## The bytes of a text, character by character -/

theorem toList_loop (bytes : ByteArray) (i : Nat) (acc : List UInt8) :
    ByteArray.toList.loop bytes i acc = acc.reverse ++ bytes.data.toList.drop i := by
  fun_induction ByteArray.toList.loop bytes i acc with
  | case1 i acc h ih =>
    have hi : i < bytes.data.toList.length := by simpa using h
    rw [ih, List.drop_eq_getElem_cons hi]
    simp [ByteArray.get!, h]
  | case2 i acc h =>
    have hi : bytes.data.toList.length ≤ i := by simpa using Nat.le_of_not_lt h
    rw [List.drop_eq_nil_of_le hi, List.append_nil]

theorem encode_ofList (cs : List Char) : encode (String.ofList cs) = cs.flatMap utf8EncodeChar := by
  have hbytes : (String.ofList cs).toUTF8 = (cs.flatMap utf8EncodeChar).toByteArray := rfl
  rw [encode, hbytes, ByteArray.toList, toList_loop, List.toList_data_toByteArray]
  rfl

/-- A text is encoded character by character. -/
theorem encode_eq_flatMap (s : String) : encode s = s.toList.flatMap utf8EncodeChar := by
  rw [← encode_ofList, String.ofList_toList]

theorem encode_append (s t : String) : encode (s ++ t) = encode s ++ encode t := by
  simp only [encode_eq_flatMap, String.toList_append, List.flatMap_append]

/-! ## Reading a character back

One lemma for each length, about the code `n` of the character. The bounds on `n` are what the
second byte is checked for: no form is overlong, a surrogate or beyond U+10FFFF. -/

section Character

variable {n : Nat} (rest : List UInt8)

theorem toNat_ofNat_of_lt (h : n < 256) : (UInt8.ofNat n).toNat = n := by
  rw [UInt8.toNat_ofNat', Nat.mod_eq_of_lt h]

theorem toNat_continuation (n : Nat) : (UInt8.ofNat (n % 64 + 128)).toNat = n % 64 + 128 :=
  toNat_ofNat_of_lt (by omega)

/-- The low six bits of a code make a continuation byte. -/
theorem isContinuation_continuation (n : Nat) :
    isContinuation (UInt8.ofNat (n % 64 + 128)) = true := by
  simp only [isContinuation, UInt8.le_iff_toNat_le, UInt8.lt_iff_toNat_lt, toNat_continuation]
  show decide (128 ≤ _) && decide (_ < 192)
  simp only [Bool.and_eq_true, decide_eq_true_eq]
  omega

/-- A code of seven bits is read from one byte. -/
theorem head_of_one (h : n ≤ 127) : head (UInt8.ofNat n) rest = .character n 1 := by
  have hb : (UInt8.ofNat n).toNat = n := toNat_ofNat_of_lt (by omega)
  rw [head_one, hb]
  rw [UInt8.lt_iff_toNat_lt, hb]
  exact Nat.lt_succ_of_le h

/-- A code of up to eleven bits is read from two bytes. -/
theorem head_of_two (hmin : 127 < n) (hmax : n ≤ 2047) :
    head (UInt8.ofNat (n / 64 % 32 + 192)) (UInt8.ofNat (n % 64 + 128) :: rest)
      = .character n 2 := by
  have hb : (UInt8.ofNat (n / 64 % 32 + 192)).toNat = n / 64 % 32 + 192 :=
    toNat_ofNat_of_lt (by omega)
  have hrange :
      0xC2 ≤ UInt8.ofNat (n / 64 % 32 + 192) ∧ UInt8.ofNat (n / 64 % 32 + 192) < 0xE0 := by
    rw [UInt8.le_iff_toNat_le, UInt8.lt_iff_toNat_lt, hb]
    show 194 ≤ _ ∧ _ < 224
    omega
  rw [head_two _ hrange (isContinuation_continuation _), hb, toNat_continuation]
  congr 1
  omega

/-- A code of up to sixteen bits is read from three bytes, unless it is a surrogate. -/
theorem head_of_three (hmin : 2047 < n) (hmax : n ≤ 65535) (hvalid : n < 0xD800 ∨ 0xDFFF < n) :
    head (UInt8.ofNat (n / 4096 % 16 + 224))
        (UInt8.ofNat (n / 64 % 64 + 128) :: UInt8.ofNat (n % 64 + 128) :: rest)
      = .character n 3 := by
  have hb : (UInt8.ofNat (n / 4096 % 16 + 224)).toNat = n / 4096 % 16 + 224 :=
    toNat_ofNat_of_lt (by omega)
  have hc := toNat_continuation (n / 64)
  rw [head_three _ ?range (isContinuation_continuation _) (isContinuation_continuation _) ?long
    ?plane, hb, hc, toNat_continuation]
  case range =>
    rw [UInt8.le_iff_toNat_le, UInt8.lt_iff_toNat_lt, hb]
    show 224 ≤ _ ∧ _ < 240
    omega
  case long =>
    rw [← UInt8.toNat_inj, UInt8.le_iff_toNat_le, hb, hc]
    show _ = 224 → 160 ≤ _
    omega
  case plane =>
    rw [← UInt8.toNat_inj, UInt8.lt_iff_toNat_lt, hb, hc]
    show _ = 237 → _ < 160
    omega
  congr 1
  omega

/-- A larger code is read from four bytes. -/
theorem head_of_four (hmin : 65535 < n) (hmax : n < 0x110000) :
    head (UInt8.ofNat (n / 262144 % 8 + 240))
        (UInt8.ofNat (n / 4096 % 64 + 128) :: UInt8.ofNat (n / 64 % 64 + 128) ::
          UInt8.ofNat (n % 64 + 128) :: rest)
      = .character n 4 := by
  have hb : (UInt8.ofNat (n / 262144 % 8 + 240)).toNat = n / 262144 % 8 + 240 :=
    toNat_ofNat_of_lt (by omega)
  have hc := toNat_continuation (n / 4096)
  rw [head_four _ ?range (isContinuation_continuation _) (isContinuation_continuation _)
    (isContinuation_continuation _) ?long ?last, hb, hc, toNat_continuation, toNat_continuation]
  case range =>
    rw [UInt8.le_iff_toNat_le, UInt8.lt_iff_toNat_lt, hb]
    show 240 ≤ _ ∧ _ < 245
    omega
  case long =>
    rw [← UInt8.toNat_inj, UInt8.le_iff_toNat_le, hb, hc]
    show _ = 240 → 144 ≤ _
    omega
  case last =>
    rw [← UInt8.toNat_inj, UInt8.lt_iff_toNat_lt, hb, hc]
    show _ = 244 → _ < 144
    omega
  congr 1
  omega

end Character

/-- **The bytes of a character are read as that character**, whatever follows. -/
theorem head_utf8EncodeChar (c : Char) (rest : List UInt8) :
    ∃ b more, utf8EncodeChar c = b :: more ∧
      head b (more ++ rest) = .character c.toNat (more.length + 1) := by
  have hvalid : c.toNat < 0xD800 ∨ 0xDFFF < c.toNat ∧ c.toNat < 0x110000 := c.valid
  have hval : c.val.toNat = c.toNat := rfl
  unfold utf8EncodeChar
  simp only [hval]
  split
  · next h1 => exact ⟨_, _, rfl, head_of_one rest h1⟩
  · split
    · next h1 h2 => exact ⟨_, _, rfl, head_of_two rest (by omega) h2⟩
    · split
      · next h2 h3 => exact ⟨_, _, rfl, head_of_three rest (by omega) h3 (by omega)⟩
      · next h3 => exact ⟨_, _, rfl, head_of_four rest (by omega) (by omega)⟩

/-! ## Reading a text back -/

/-- The next character is read, or the next malformed bytes are replaced by one character. -/
theorem decodeLossy_cons (b : UInt8) (rest : List UInt8) :
    decodeLossy (b :: rest) = match head b rest with
      | .character code size => Char.ofNat code :: decodeLossy (rest.drop (size - 1))
      | .malformed _ size => Char.ofNat 0xFFFD :: decodeLossy (rest.drop (size - 1)) := by
  cases hhead : head b rest with
  | character code size => rw [decodeLossy, hhead]
  | malformed reason size => rw [decodeLossy, hhead]

/-- An encoded character is read back, whatever follows. -/
theorem decodeLossy_utf8EncodeChar (c : Char) (rest : List UInt8) :
    decodeLossy (utf8EncodeChar c ++ rest) = c :: decodeLossy rest := by
  obtain ⟨b, more, hbytes, hhead⟩ := head_utf8EncodeChar c rest
  rw [hbytes, List.cons_append, decodeLossy_cons, hhead]
  show Char.ofNat c.toNat :: decodeLossy ((more ++ rest).drop (more.length + 1 - 1)) = _
  rw [Char.ofNat_toNat, Nat.add_sub_cancel, List.drop_left]

/-- **The bytes of a text are read as that text.** -/
theorem decodeLossy_flatMap (cs : List Char) : decodeLossy (cs.flatMap utf8EncodeChar) = cs := by
  induction cs with
  | nil => rw [List.flatMap_nil, decodeLossy]
  | cons c rest ih => rw [List.flatMap_cons, decodeLossy_utf8EncodeChar, ih]

/-- The next character is read, or the next malformed bytes are reported with their position. -/
theorem decodeFrom_cons (position : Nat) (b : UInt8) (rest : List UInt8) :
    decodeFrom position (b :: rest) = match head b rest with
      | .character code size =>
        (decodeFrom (position + size) (rest.drop (size - 1))).map (Char.ofNat code :: ·)
      | .malformed reason size => .error ⟨reason, position, (b :: rest).take size⟩ := by
  cases hhead : head b rest with
  | character code size => rw [decodeFrom, hhead]
  | malformed reason size => rw [decodeFrom, hhead]

/-- Strict reading reads the bytes of a text as that text, too. -/
theorem decodeFrom_flatMap (position : Nat) (cs : List Char) :
    decodeFrom position (cs.flatMap utf8EncodeChar) = .ok cs := by
  induction cs generalizing position with
  | nil => rw [List.flatMap_nil, decodeFrom]
  | cons c rest ih =>
    obtain ⟨b, more, hbytes, hhead⟩ := head_utf8EncodeChar c (rest.flatMap utf8EncodeChar)
    rw [List.flatMap_cons, hbytes, List.cons_append, decodeFrom_cons, hhead]
    show (decodeFrom (position + (more.length + 1)) ((more ++ rest.flatMap utf8EncodeChar).drop
      (more.length + 1 - 1))).map (Char.ofNat c.toNat :: ·) = _
    rw [Char.ofNat_toNat, Nat.add_sub_cancel, List.drop_left, ih]
    rfl

/-- **The bytes of a string are read as that string.** -/
theorem decode_encode (s : String) : decode (encode s) = .ok s.toList := by
  rw [decode, encode_eq_flatMap, decodeFrom_flatMap]

/-! ## ASCII -/

/-- An ASCII character is encoded as one byte. -/
theorem utf8EncodeChar_of_ascii {c : Char} (h : c.toNat < 128) :
    utf8EncodeChar c = [UInt8.ofNat c.toNat] :=
  if_pos (Nat.le_of_lt_succ h)

/-- Every byte of a longer form is at least 128. -/
theorem le_of_mem_utf8EncodeChar {c : Char} {b : UInt8} (hc : 128 ≤ c.toNat)
    (hb : b ∈ utf8EncodeChar c) : 128 ≤ b.toNat := by
  have hval : c.val.toNat = c.toNat := rfl
  have hone : ¬ c.toNat ≤ 127 := by omega
  simp only [utf8EncodeChar, hval, if_neg hone] at hb
  split at hb
  · simp only [List.mem_cons, List.not_mem_nil, or_false] at hb
    rcases hb with rfl | rfl <;> rw [UInt8.toNat_ofNat'] <;> omega
  · split at hb
    · simp only [List.mem_cons, List.not_mem_nil, or_false] at hb
      rcases hb with rfl | rfl | rfl <;> rw [UInt8.toNat_ofNat'] <;> omega
    · simp only [List.mem_cons, List.not_mem_nil, or_false] at hb
      rcases hb with rfl | rfl | rfl | rfl <;> rw [UInt8.toNat_ofNat'] <;> omega

/-- The byte of an ASCII character stands only where the character does. -/
theorem mem_of_mem_flatMap {cs : List Char} {c : Char} (hc : c.toNat < 128)
    (hmem : UInt8.ofNat c.toNat ∈ cs.flatMap utf8EncodeChar) : c ∈ cs := by
  have hb : (UInt8.ofNat c.toNat).toNat = c.toNat := toNat_ofNat_of_lt (by omega)
  obtain ⟨d, hd, hbyte⟩ := List.mem_flatMap.1 hmem
  -- a character beyond ASCII has only bytes that are too large
  rcases Nat.lt_or_ge d.toNat 128 with hlt | hge
  · rw [utf8EncodeChar_of_ascii hlt, List.mem_singleton] at hbyte
    have heq : c.toNat = d.toNat := by
      rw [← hb, hbyte, toNat_ofNat_of_lt (by omega)]
    obtain rfl : c = d := Char.toNat_inj.1 heq
    exact hd
  · have := le_of_mem_utf8EncodeChar hge hbyte
    omega

/-- ASCII text has the same form in Latin-1. -/
theorem encodeLatin1From_of_ascii {cs : List Char} (h : ∀ c ∈ cs, c.toNat < 128) (position : Nat) :
    encodeLatin1From position cs = .ok (cs.flatMap utf8EncodeChar) := by
  induction cs generalizing position with
  | nil => rfl
  | cons c rest ih =>
    have hc : c.toNat < 128 := h c List.mem_cons_self
    have hlatin : c.toNat < 0x100 := Nat.lt_trans hc (by decide)
    rw [encodeLatin1From, if_pos hlatin, ih (fun d hd => h d (List.mem_cons_of_mem c hd)),
      List.flatMap_cons, utf8EncodeChar_of_ascii hc]
    rfl

end ApiShape.Text.Utf8
