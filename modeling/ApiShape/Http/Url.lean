import ApiShape.Http.Host

/-!
Splitting of URLs. A scheme and a host in front of the path are recognised and left out, and so is
the fragment.
-/

namespace ApiShape.Http

open Text

/-- The parts of a URL that a request is routed by. -/
structure Url where
  path : String
  query : List Char
deriving DecidableEq, Repr

namespace Url

/-- A character that a scheme may hold. -/
def isSchemeChar (c : Char) : Bool := c.isAlphanum || c = '+' || c = '-' || c = '.'

/-- The text without leading blanks and control characters, and without tabs and line breaks. -/
def cleaned (s : List Char) : List Char :=
  (s.dropWhile fun c => c.toNat ≤ 0x20).filter fun c => !(c = '\t' || c = '\r' || c = '\n')

/-- The text behind the scheme, if it has one. -/
def dropScheme (s : List Char) : List Char :=
  match cut ':' s with
  | (scheme, some rest) =>
    if (scheme.head?.any Char.isAlpha) && scheme.all isSchemeChar then rest else s
  | (_, none) => s

/-- The host and the text behind it, where two slashes announce a host. -/
def splitHost (s : List Char) : List Char × List Char :=
  match s with
  | '/' :: '/' :: rest => rest.span fun c => !(c = '/' || c = '?' || c = '#')
  | _ => ([], s)

/-- Splits a URL. -/
def read (text : String) : Except HostFault Url := do
  let (host, rest) := splitHost (dropScheme (cleaned text.toList))
  checkBrackets host
  checkLetters host
  let (path, query) := cut '?' (cut '#' rest).1
  return ⟨String.ofList path, query.getD []⟩

end Url

end ApiShape.Http
