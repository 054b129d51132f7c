import TableGraph.Text.Unicode

/-!
# Names of the generated API

Tables and columns are keyed in `snake_case`; the API names a field in
`lowerCamelCase` and a type in `UpperCamelCase`. This module holds the
conversions between the two spellings and the test for a name that the API
can carry verbatim.

* `camelToSnake` inserts `_` before a capitalised word and between a small
  letter or digit and a capital (ASCII letters only), then lower-cases.
* `snakeToCamel` joins the non-empty `_`-separated words, the first one
  lower-cased (or put in sentence case) and every later one put in sentence
  case; a name with no `_` is kept, apart from its first letter when a
  capital is asked for.
* `isApiName` accepts `[_A-Za-z][_A-Za-z0-9]*`, also with one line break at
  the very end, which the end-of-text anchor of the rule lets through.
-/

namespace TableGraph.Text

/-- First character upper-cased, the rest unchanged. -/
def capitalize (s : String) : String :=
  match s.toList with
  | [] => ""
  | c :: rest => String.ofList (upperChars c ++ rest)

/-- Dropping a prefix never lengthens a list. -/
theorem length_dropWhile_le {α : Type} (p : α → Bool) :
    ∀ l : List α, (l.dropWhile p).length ≤ l.length
  | [] => Nat.le_refl _
  | c :: cs => by
    rw [List.dropWhile_cons]
    split
    · exact Nat.le_succ_of_le (length_dropWhile_le p cs)
    · exact Nat.le_refl _

/-- Inserts `_` before every capitalised word (a capital followed by small
letters) that has a character before it, scanning left to right without
overlap. -/
def splitCapitalisedWords : List Char → List Char
  | [] => []
  | c :: u :: l :: more =>
    if c != '\n' && isAsciiUpper u && isAsciiLower l then
      c :: '_' :: u :: ((l :: more).takeWhile isAsciiLower ++
        splitCapitalisedWords ((l :: more).dropWhile isAsciiLower))
    else c :: splitCapitalisedWords (u :: l :: more)
  | c :: rest => c :: splitCapitalisedWords rest
  termination_by cs => cs.length
  decreasing_by
    all_goals simp_wf
    all_goals
      first
      | omega
      | (have hd : ((l :: more).dropWhile isAsciiLower).length ≤ (l :: more).length :=
            length_dropWhile_le isAsciiLower (l :: more)
         simp_all
         omega)

/-- Inserts `_` between a small letter or digit and a following capital. -/
def splitLowerUpper : List Char → List Char
  | [] => []
  | [c] => [c]
  | c :: u :: rest =>
    if (isAsciiLower c || isAsciiDigit c) && isAsciiUpper u then
      c :: '_' :: u :: splitLowerUpper rest
    else c :: splitLowerUpper (u :: rest)

/-- `inArray` becomes `in_array` and `HTTPStatus` becomes `http_status`. -/
def camelToSnake (name : String) : String :=
  if name.isEmpty then name
  else lower (String.ofList (splitLowerUpper (splitCapitalisedWords name.toList)))

/-- `post_comments` becomes `postComments`, or `PostComments` when
`upperFirst` is set. -/
def snakeToCamel (name : String) (upperFirst : Bool) : String :=
  if name.isEmpty then name
  else if !name.toList.contains '_' then
    if upperFirst then capitalize name else name
  else
    let words := (name.splitOn "_").filter (fun w => !w.isEmpty)
    let words := if words.isEmpty then [""] else words
    match words with
    | [] => ""
    | head :: tail =>
      let head := if upperFirst then sentenceCase head else lower head
      head ++ String.join (tail.map sentenceCase)

/-- The type-name prefix of a table or column: `post_comments` becomes
`PostComments`. -/
def pascalCase (name : String) : String := capitalize (snakeToCamel name false)

/-- A character that may start an API name. -/
def isNameStart (c : Char) : Bool := c == '_' || isAsciiAlpha c

/-- A character that may continue an API name. -/
def isNameChar (c : Char) : Bool := c == '_' || isAsciiAlpha c || isAsciiDigit c

/-- A name the API can carry verbatim: `[_A-Za-z][_A-Za-z0-9]*`, with one
optional line break at the very end. -/
def isApiName (name : String) : Bool :=
  let cs := name.toList
  let body := if cs.getLast? == some '\n' then cs.dropLast else cs
  match body with
  | [] => false
  | c :: rest => isNameStart c && rest.all isNameChar

/-- The member name under which an enum value is offered: the value itself
when it is an API name, else `Option<index>`. -/
def enumMemberName (value : String) (index : Nat) : String :=
  if isApiName value then value else "Option" ++ toString index

end TableGraph.Text
