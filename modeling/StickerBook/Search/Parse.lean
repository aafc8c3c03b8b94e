import StickerBook.Search.Token

/-!
# Reading searches

Each token becomes one filter (`Token.criterion`): with a reserved key before its colon a meta
filter, with text on both sides of the colon a tag filter, else a keyword. Quotes and negations of
the whole text are checked before the first value is, so their errors come first.
-/

namespace StickerBook
set_option autoImplicit false
open Text (trim)

/-- What one token asks for. -/
inductive Criterion where
  | keyword (filter : Filter String)
  | tag (filter : Filter Tag)
  | option (filter : MetaFilter)
deriving DecidableEq, Repr

/-- Checks the value of a meta filter. -/
def MetaKey.check (key : MetaKey) (value : String) : Except SearchError Unit :=
  match key with
  | .sort => if (SortField.ofString? value).isSome then .ok () else .error (.unsortable value)
  | .order => if value = "asc" ∨ value = "desc" then .ok () else .error (.invalidOrder value)
  | .after => if (date? value).isSome then .ok () else .error (.invalidDate .after value)
  | .before => if (date? value).isSome then .ok () else .error (.invalidDate .before value)
  | .kind => if (Kind.ofString? value).isSome then .ok () else .error (.invalidKind value)
  | .package => .ok ()

namespace Token

/-- The keyword that a token stands for when it is nothing else. -/
def keyword (t : Token) : Criterion :=
  .keyword { value := .ofList t.text, negated := t.negated }

/-- The filter that a token stands for. -/
def criterion (t : Token) : Except SearchError Criterion :=
  match t.tail with
  | none => .ok t.keyword
  | some tail =>
    let key := String.ofList (trim t.head)
    let value := String.ofList (trim tail)
    match MetaKey.ofString? key with
    | some metaKey =>
      (metaKey.check value).map fun _ =>
        .option { key := metaKey, value := value, negated := t.negated }
    | none =>
      if key.isEmpty || value.isEmpty then .ok t.keyword
      else .ok (.tag { value := { ns := key, value := value }, negated := t.negated })

end Token

/-- The filters of a list of tokens, or the error of the first token that has one. -/
def criteria : List Token → Except SearchError (List Criterion)
  | [] => .ok []
  | t :: rest =>
    match t.criterion with
    | .error e => .error e
    | .ok c => (criteria rest).map (c :: ·)

namespace Search

/-- The search that asks for all of the given criteria; filters of one sort keep their order. -/
def ofCriteria (cs : List Criterion) : Search where
  keywords := cs.filterMap fun | .keyword f => some f | _ => none
  tags := cs.filterMap fun | .tag f => some f | _ => none
  metas := cs.filterMap fun | .option f => some f | _ => none

/-- Reads a search text. A blank text is the empty search. -/
def parse (s : String) : Except SearchError Search :=
  match Token.tokenize s.toList with
  | .error e => .error e
  | .ok tokens => (criteria tokens).map ofCriteria

end Search

end StickerBook
