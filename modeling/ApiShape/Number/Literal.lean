import ApiShape.Error
import ApiShape.Text.Blank

/-!
Whole numbers as people write them: blanks around them, digits of any script, and single underscores
between digits.
-/

namespace ApiShape.Number.Literal

open Text

/-- A blank that may surround a number; the information separators may not. -/
def isMargin (c : Char) : Bool := isBlank c && !(0x1C ≤ c.toNat && c.toNat ≤ 0x1F)

/-- A digit of any script or an underscore. -/
def isDigitChar (c : Char) : Bool := c = '_' || (decimalDigit? c).isSome

/-- Reads a whole number. -/
def read (text : String) : Except Fault Int :=
  let malformed := Except.error (.notAnInteger text)
  let (negative, rest) := spanSign (text.toList.dropWhile isMargin)
  let (run, rest) := rest.span isDigitChar
  if (pieces '_' run).any (·.isEmpty) then malformed
  else
    let digits := run.filterMap decimalDigit?
    if maxDigits < digits.length then .error (.tooManyDigits digits.length)
    else if rest.all isMargin then
      .ok (signed negative (digits.foldl (fun n d => n * 10 + d) 0))
    else malformed

end ApiShape.Number.Literal
