import ApiShape.Number.Digits
import ApiShape.Text.Split

/-!
The host part of a URL. Square brackets hold an IP address of the sixth or a later version; letters
that have a delimiter of URLs as their compatibility form are refused.
-/

namespace ApiShape.Http

open Number Text

/-- Why a host is refused. -/
inductive HostFault where
  | unbalanced
  | futureAddress
  | shortAddress
  | noAddress (host : String)
  | hiddenDelimiter (host : String)
deriving DecidableEq, Repr

/-- The character is a hexadecimal digit. -/
def isHexDigit (c : Char) : Bool := (hexDigit? c).isSome

/-! ## Addresses -/

/-- A decimal number of at most 255 without leading zeros. -/
def isOctet (s : List Char) : Bool :=
  match s with
  | [] => false
  | ['0'] => true
  | c :: _ => c ≠ '0' && s.all isDigit && s.length ≤ 3 && ofDigits s ≤ 255

/-- An address of the fourth version. -/
def isAddressV4 (s : List Char) : Bool :=
  let octets := pieces '.' s
  octets.length = 4 && octets.all isOctet

/-- One to four hexadecimal digits. -/
def isGroup (s : List Char) : Bool := !s.isEmpty && s.length ≤ 4 && s.all isHexDigit

/-- The groups of an address, an ending in the notation of version four counted as two. -/
def addressGroups? (s : List Char) : Option (List (List Char)) :=
  let groups := pieces ':' s
  let last := groups.getLastD []
  if groups.length < 3 then none
  else if last.contains '.' then
    if isAddressV4 last then some (groups.dropLast ++ [['0'], ['0']]) else none
  else some groups

/-- The groups make up an address. An empty group inside stands for the groups that are missing, and
only beside it may the first or last group be empty. -/
def areAddressGroups (groups : List (List Char)) : Bool :=
  let inner := (groups.drop 1).dropLast
  match inner.count [] with
  | 0 => groups.length = 8 && groups.all isGroup
  | 1 =>
    let high := groups.takeWhile (!·.isEmpty)
    let low := (groups.reverse.takeWhile (!·.isEmpty)).reverse
    let edges := (if groups.head? = some [] then 1 else 0) +
      if groups.getLast? = some [] then 1 else 0
    high.length + low.length + 1 + edges = groups.length && high.length + low.length < 8 &&
      (high ++ low).all isGroup
  | _ => false

/-- An address of the sixth version, perhaps with a scope. -/
def isAddressV6 (s : List Char) : Bool :=
  match cut '%' s with
  | (address, scope) =>
    scope.all (fun scope => !scope.isEmpty && !scope.contains '%') &&
      (addressGroups? address).any areAddressGroups

/-- An address of a later version: its number in hexadecimal digits, a point, and the rest. -/
def isFutureAddress (s : List Char) : Bool :=
  match s with
  | 'v' :: rest =>
    match cut '.' rest with
    | (version, some address) => !version.isEmpty && version.all isHexDigit && !address.isEmpty
    | (_, none) => false
  | _ => false

/-- Fails unless the brackets may hold the text. -/
def checkBracketed (s : List Char) : Except HostFault Unit :=
  if s.head? = some 'v' then
    if isFutureAddress s then .ok () else .error .futureAddress
  else if isAddressV4 s then .error .shortAddress
  else if isAddressV6 s then .ok ()
  else .error (.noAddress (String.ofList s))

/-- Fails unless the brackets in a host are balanced and hold an address. -/
def checkBrackets (host : List Char) : Except HostFault Unit :=
  if host.contains '[' != host.contains ']' then .error .unbalanced
  else match cut '[' host with
    | (_, some rest) => checkBracketed (cut ']' rest).1
    | (_, none) => .ok ()

/-! ## Compatibility forms -/

/-- The letters whose compatibility form holds one of `/ ? # @ :`. -/
def hidingDelimiters : List Nat :=
  [0x2047, 0x2048, 0x2049, 0x2100, 0x2101, 0x2105, 0x2106, 0x2A74, 0xFE13, 0xFE16, 0xFE55, 0xFE56,
    0xFE5F, 0xFE6B, 0xFF03, 0xFF0F, 0xFF1A, 0xFF1F, 0xFF20]

/-- Fails if the host would hold another delimiter after normalisation. -/
def checkLetters (host : List Char) : Except HostFault Unit :=
  if host.any fun c => hidingDelimiters.contains c.toNat then
    .error (.hiddenDelimiter (String.ofList host))
  else .ok ()

end ApiShape.Http
