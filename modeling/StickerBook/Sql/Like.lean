/-!
# Patterns of LIKE

`containsPattern` is the pattern that matches every text containing a given one: the text between
two `%`, with a backslash before each of its own special characters. `matchesLike` is the meaning of
`LIKE` with a backslash as escape character: `%` stands for any run of characters, `_` for one
character, and ASCII letters are compared without regard to case.
-/

namespace StickerBook.Sql
set_option autoImplicit false

/-- The characters that a pattern has to escape. -/
def isWildcard (c : Char) : Bool := c = '%' || c = '_' || c = '\\'

/-- The pattern that matches exactly a given text. -/
def escaped : List Char → List Char
  | [] => []
  | c :: rest => if isWildcard c then '\\' :: c :: escaped rest else c :: escaped rest

/-- The pattern of the texts that contain `value`. -/
def containsPattern (value : String) : String :=
  String.ofList ('%' :: (escaped value.toList ++ ['%']))

/-- Equality of characters up to the case of ASCII letters. -/
def sameLetter (a b : Char) : Bool := a.toLower = b.toLower

/-- An element of a pattern. -/
inductive LikeItem where
  | anyRun
  | anyOne
  | exactly (c : Char)
deriving DecidableEq, Repr

/-- The elements of a pattern; a backslash takes the next character literally. A pattern that ends in a
lone backslash has no elements. -/
def likeItems? : List Char → Option (List LikeItem)
  | [] => some []
  | '\\' :: c :: rest => (likeItems? rest).map (.exactly c :: ·)
  | c :: rest =>
    if c = '\\' then none
    else if c = '%' then (likeItems? rest).map (.anyRun :: ·)
    else if c = '_' then (likeItems? rest).map (.anyOne :: ·)
    else (likeItems? rest).map (.exactly c :: ·)

/-- The elements match a text as a whole. -/
def matchesItems : List LikeItem → List Char → Bool
  | [], cs => cs.isEmpty
  | .anyRun :: items, [] => matchesItems items []
  | .anyRun :: items, c :: cs => matchesItems items (c :: cs) || matchesItems (.anyRun :: items) cs
  | .anyOne :: _, [] => false
  | .anyOne :: items, _ :: cs => matchesItems items cs
  | .exactly _ :: _, [] => false
  | .exactly d :: items, c :: cs => sameLetter d c && matchesItems items cs
termination_by items cs => items.length + cs.length

/-- The meaning of `LIKE` with the backslash as escape character. -/
def matchesLike (pattern text : String) : Bool :=
  match likeItems? pattern.toList with
  | some items => matchesItems items text.toList
  | none => false

end StickerBook.Sql
