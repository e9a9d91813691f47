import ApiShape.Error
import ApiShape.Header

/-!
Cookie headers. The header is read item by item, a key perhaps with a value, up to the first text
that is no item. Attributes may follow a cookie; what stands where it may not makes the whole header
void. Only ASCII letters, digits and spaces count as such.
-/

namespace ApiShape.Http.Cookie

open Number Text

/-! ## Items -/

/-- An ASCII space, tab or line break. -/
def isSpace (c : Char) : Bool := c = ' ' || (9 ≤ c.toNat && c.toNat ≤ 13)

/-- A letter, digit or underscore. -/
def isWordChar (c : Char) : Bool := c.isAlphanum || c = '_'

/-- A character that keys may hold while the header is cut into items. -/
def isKeyChar (c : Char) : Bool :=
  isWordChar c || "!#%&'~`><@,:/$*+-.^|)(?\x7d\x7b=".toList.contains c

/-- A character that values without quotes may hold. -/
def isValueChar (c : Char) : Bool := isKeyChar c || c = '[' || c = ']'

/-- A key, perhaps with a value. -/
structure Item where
  key : List Char
  value : Option (List Char)
deriving DecidableEq, Repr

/-- The text behind the end of an item: spaces, or a semicolon after spaces, or the end. -/
def afterItem? (s : List Char) : Option (List Char) :=
  match s.dropWhile isSpace with
  | [] => some []
  | ';' :: rest => some rest
  | rest => if s.head?.any isSpace then some rest else none

/-- What stands between quotes, the opening one read already, and the text behind. -/
def quotedText? : List Char → Option (List Char × List Char)
  | [] => none
  | c :: rest =>
    if c = '"' then some ([], rest)
    else if c = '\\' then
      match rest with
      | d :: rest' =>
        if d = '\n' then none
        else (quotedText? rest').map fun (text, behind) => (c :: d :: text, behind)
      | [] => none
    else (quotedText? rest).map fun (text, behind) => (c :: text, behind)

/-- The character that three octal digits below 400 write. -/
def octal? (a b c : Char) : Option Char :=
  if '0' ≤ a && a ≤ '3' && '0' ≤ b && b ≤ '7' && '0' ≤ c && c ≤ '7' then
    some (Char.ofNat (64 * (a.toNat - 48) + 8 * (b.toNat - 48) + (c.toNat - 48)))
  else none

/-- Quoted text with its escapes resolved. -/
def unescaped : List Char → List Char
  | '\\' :: a :: b :: c :: rest =>
    match octal? a b c with
    | some d => d :: unescaped rest
    | none => a :: unescaped (b :: c :: rest)
  | '\\' :: a :: rest => a :: unescaped rest
  | c :: rest => c :: unescaped rest
  | [] => []
termination_by s => s.length

/-- The text that fits the classes one by one, and the text behind. -/
def splitFitting? (classes : List (Char → Bool)) (s : List Char) :
    Option (List Char × List Char) :=
  let text := s.take classes.length
  if text.length = classes.length && (classes.zip text).all fun (fits, c) => fits c then
    some (text, s.drop classes.length)
  else none

/-- The character classes of a date with `count` characters between weekday and time. -/
def datePattern (count : Nat) : List (Char → Bool) :=
  List.replicate 3 isWordChar ++ [only ',', isSpace] ++
    List.replicate count (fun c => isWordChar c || isSpace c || c = '-') ++ [isSpace] ++
    List.replicate 8 (fun c => isDigit c || c = ':') ++ [isSpace, only 'G', only 'M', only 'T']
where
  /-- The class of one character. -/
  only (c d : Char) : Bool := c = d

/-- The values that the text may start with, the preferred first, each with the text behind. -/
def values (s : List Char) : List (List Char × List Char) :=
  let quoted := match s with
    | '"' :: rest => ((quotedText? rest).map fun (text, behind) => (unescaped text, behind)).toList
    | _ => []
  quoted ++ [11, 10, 9].filterMap (fun count => splitFitting? (datePattern count) s) ++
    [s.span isValueChar]

/-- The value behind a key and the text behind the item. A value that does not fit is left out if
spaces separate it from the equals sign. -/
def value? (s : List Char) : Option (List Char × List Char) :=
  match s.dropWhile isSpace with
  | '=' :: rest =>
    let text := rest.dropWhile isSpace
    let fitting := (values text).findSome? fun (value, behind) =>
      (afterItem? behind).map fun next => (value, next)
    fitting <|> (if rest.head?.any isSpace then some ([], text) else none)
  | _ => none

/-- The item whose key takes the first `size` characters. -/
def itemOfKey? (s : List Char) (size : Nat) : Option (Item × List Char) :=
  let (key, rest) := s.splitAt size
  match value? rest with
  | some (value, next) => some (⟨key, some value⟩, next)
  | none => (afterItem? rest).map fun next => (⟨key, none⟩, next)

/-- The first item, its key as short as possible, and the text behind it. -/
def item? (s : List Char) : Option (Item × List Char) :=
  let s := s.dropWhile isSpace
  let longest := (s.takeWhile isKeyChar).length
  (List.range longest).findSome? fun i => itemOfKey? s (i + 1)

/-- The items up to the first text that is none. -/
def items (s : List Char) : List Item :=
  match item? s with
  | none => []
  | some (item, rest) => if rest.length < s.length then item :: items rest else [item]
termination_by s.length

/-! ## Cookies -/

/-- The names of attributes, in lower case. -/
def attributeNames : List String :=
  ["expires", "path", "comment", "domain", "max-age", "secure", "httponly", "version", "samesite"]

/-- The names of attributes that need no value. -/
def flagNames : List String := ["secure", "httponly"]

/-- A character that the key of a cookie may hold. -/
def isLegalKeyChar (c : Char) : Bool := c.isAlphanum || "!#$%&'*+-.^_`|~:".toList.contains c

/-- What an item stands for. -/
inductive Entry where
  | cookie (key : List Char) (value : List Char)
  | attributed (name : String)
deriving DecidableEq, Repr

/-- The entries of a header; none if an item stands where it may not. `open_` tells that a cookie
stands before. -/
def entries? (open_ : Bool) : List Item → Option (List Entry)
  | [] => some []
  | ⟨key, value⟩ :: rest =>
    let name := String.ofList (lower key)
    match key with
    | '$' :: name =>
      if open_ then (entries? open_ rest).map (.attributed (String.ofList (lower name)) :: ·)
      else entries? open_ rest
    | _ =>
      if attributeNames.contains name then
        if open_ && (value.isSome || flagNames.contains name) then
          (entries? open_ rest).map (.attributed name :: ·)
        else none
      else value.bind fun value => (entries? true rest).map (.cookie key value :: ·)

/-- Adds a cookie, or checks an attribute. -/
def Entry.apply (jar : Table String String) : Entry → Except Error (Table String String)
  | cookie key value =>
    let key' := String.ofList key
    if key.all isLegalKeyChar then .ok (jar.set key' (String.ofList value))
    else .error (.fault (.cookieKey key'))
  | attributed name =>
    if attributeNames.contains name then .ok jar else .error (.fault (.cookieAttribute name))

/-- The cookies of a header by key; the last one of a key counts. -/
def read (header : String) : Except Error (Table String String) :=
  ((entries? false (items header.toList)).getD []).foldlM Entry.apply ∅

end ApiShape.Http.Cookie
