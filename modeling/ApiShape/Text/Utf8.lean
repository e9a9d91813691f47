/-!
Reading UTF-8. A sequence that is no character is cut off at its longest part that could still have
become one; strict reading reports that part, lossy reading replaces it by U+FFFD.
-/

namespace ApiShape.Text.Utf8

/-- Why bytes are no character. -/
inductive Malformed where
  | startByte
  | continuationByte
  | truncated
deriving DecidableEq, Repr

/-- What stands at the head of a byte sequence, with the number of bytes it takes. -/
inductive Head where
  | character (code size : Nat)
  | malformed (reason : Malformed) (size : Nat)

/-- The byte can follow a start byte. -/
def isContinuation (b : UInt8) : Bool := 0x80 ≤ b && b < 0xC0

private def low6 (b : UInt8) : Nat := b.toNat % 64

private def headTwo (b : UInt8) : List UInt8 → Head
  | [] => .malformed .truncated 1
  | c :: _ =>
    if isContinuation c then .character (b.toNat % 32 * 64 + low6 c) 2
    else .malformed .continuationByte 1

/-- Three-byte forms; overlong forms and surrogates are refused at the second byte. -/
private def headThree (b : UInt8) : List UInt8 → Head
  | [] => .malformed .truncated 1
  | c :: rest =>
    if !isContinuation c || (b == 0xE0 && c < 0xA0) || (b == 0xED && 0xA0 ≤ c) then
      .malformed .continuationByte 1
    else match rest with
      | [] => .malformed .truncated 2
      | d :: _ =>
        if isContinuation d then .character (b.toNat % 16 * 4096 + low6 c * 64 + low6 d) 3
        else .malformed .continuationByte 2

/-- Four-byte forms; what is overlong or beyond U+10FFFF is refused at the second byte. -/
private def headFour (b : UInt8) : List UInt8 → Head
  | [] => .malformed .truncated 1
  | c :: rest =>
    if !isContinuation c || (b == 0xF0 && c < 0x90) || (b == 0xF4 && 0x90 ≤ c) then
      .malformed .continuationByte 1
    else match rest with
      | [] => .malformed .truncated 2
      | d :: rest =>
        if !isContinuation d then .malformed .continuationByte 2
        else match rest with
          | [] => .malformed .truncated 3
          | e :: _ =>
            if isContinuation e then
              .character (b.toNat % 8 * 262144 + low6 c * 4096 + low6 d * 64 + low6 e) 4
            else .malformed .continuationByte 3

/-- Reads the first character of the bytes `b :: rest`. -/
def head (b : UInt8) (rest : List UInt8) : Head :=
  if b < 0x80 then .character b.toNat 1
  else if b < 0xC2 then .malformed .startByte 1
  else if b < 0xE0 then headTwo b rest
  else if b < 0xF0 then headThree b rest
  else if b < 0xF5 then headFour b rest
  else .malformed .startByte 1

/-! ## Sequences that are a character -/

section Sequences

variable {b c d e : UInt8} (rest : List UInt8)

theorem head_one (hb : b < 0x80) : head b rest = .character b.toNat 1 := if_pos hb

theorem head_two (hb : 0xC2 ≤ b ∧ b < 0xE0) (hc : isContinuation c = true) :
    head b (c :: rest) = .character (b.toNat % 32 * 64 + c.toNat % 64) 2 := by
  have h80 : ¬ b < 0x80 := by grind
  have hC2 : ¬ b < 0xC2 := by grind
  rw [head, if_neg h80, if_neg hC2, if_pos hb.2, headTwo, if_pos hc, low6]

theorem head_three (hb : 0xE0 ≤ b ∧ b < 0xF0) (hc : isContinuation c = true)
    (hd : isContinuation d = true) (hlong : b = 0xE0 → 0xA0 ≤ c) (hplane : b = 0xED → c < 0xA0) :
    head b (c :: d :: rest) =
      .character (b.toNat % 16 * 4096 + c.toNat % 64 * 64 + d.toNat % 64) 3 := by
  have h80 : ¬ b < 0x80 := by grind
  have hC2 : ¬ b < 0xC2 := by grind
  have hE0 : ¬ b < 0xE0 := by grind
  have hsecond :
      ¬ (!isContinuation c || (b == 0xE0 && c < 0xA0) || (b == 0xED && 0xA0 ≤ c)) = true := by grind
  rw [head, if_neg h80, if_neg hC2, if_neg hE0, if_pos hb.2, headThree, if_neg hsecond]
  exact if_pos hd

theorem head_four (hb : 0xF0 ≤ b ∧ b < 0xF5) (hc : isContinuation c = true)
    (hd : isContinuation d = true) (he : isContinuation e = true) (hlong : b = 0xF0 → 0x90 ≤ c)
    (hlast : b = 0xF4 → c < 0x90) :
    head b (c :: d :: e :: rest) =
      .character (b.toNat % 8 * 262144 + c.toNat % 64 * 4096 + d.toNat % 64 * 64 + e.toNat % 64)
        4 := by
  have h80 : ¬ b < 0x80 := by grind
  have hC2 : ¬ b < 0xC2 := by grind
  have hE0 : ¬ b < 0xE0 := by grind
  have hF0 : ¬ b < 0xF0 := by grind
  have hsecond :
      ¬ (!isContinuation c || (b == 0xF0 && c < 0x90) || (b == 0xF4 && 0x90 ≤ c)) = true := by grind
  rw [head, if_neg h80, if_neg hC2, if_neg hE0, if_neg hF0, if_pos hb.2, headFour,
    if_neg hsecond]
  have hthird : ¬ (!isContinuation d) = true := by simp [hd]
  exact (if_neg hthird).trans (if_pos he)

end Sequences

/-- The first sequence of bytes that is no character. -/
structure Fault where
  reason : Malformed
  position : Nat
  bytes : List UInt8
deriving DecidableEq, Repr

/-- The characters that the bytes spell, `position` bytes into the text. -/
def decodeFrom (position : Nat) : List UInt8 → Except Fault (List Char)
  | [] => .ok []
  | b :: rest =>
    match head b rest with
    | .character code size =>
      (decodeFrom (position + size) (rest.drop (size - 1))).map (Char.ofNat code :: ·)
    | .malformed reason size => .error ⟨reason, position, (b :: rest).take size⟩
termination_by bytes => bytes.length
decreasing_by simp only [List.length_drop, List.length_cons]; omega

/-- The characters that the bytes spell. -/
def decode (bytes : List UInt8) : Except Fault (List Char) := decodeFrom 0 bytes

/-- The characters that the bytes spell, with U+FFFD for each part that is none. -/
def decodeLossy : List UInt8 → List Char
  | [] => []
  | b :: rest =>
    match head b rest with
    | .character code size => Char.ofNat code :: decodeLossy (rest.drop (size - 1))
    | .malformed _ size => Char.ofNat 0xFFFD :: decodeLossy (rest.drop (size - 1))
termination_by bytes => bytes.length
decreasing_by all_goals simp only [List.length_drop, List.length_cons]; omega

/-- The UTF-8 form of a text. -/
def encode (s : String) : List UInt8 := s.toUTF8.toList

end ApiShape.Text.Utf8
