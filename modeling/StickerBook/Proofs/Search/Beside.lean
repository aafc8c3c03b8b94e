import StickerBook.Proofs.Search.Meaning
import StickerBook.Proofs.Search.Step

/-!
# Search texts side by side

A blank behind a text that can be read ends its last token, and the scan goes on behind it as at the start of a text
(`Token.scan_beside`). So the second of two texts is read as it would be alone, and only the columns in its errors are
counted from the start of the first (`Search.parse_beside`).
-/

namespace StickerBook
set_option autoImplicit false
open Text (isBlank)

/-- The error of a text that stands some columns further to the right. -/
def SearchError.moved (width : Nat) : SearchError → SearchError
  | .unterminatedQuote column => .unterminatedQuote (column + width)
  | .danglingNegation column => .danglingNegation (column + width)
  | e => e

namespace Token

/-- The place of a reader whose text stands some columns further to the right. -/
def Place.moved (width : Nat) : Place → Place
  | .inQuotes draft opened => .inQuotes draft (opened + width)
  | place => place

theorem read_moved (d : Draft) (column width : Nat) (c : Char) :
    d.read (column + width) c = (d.read column c).moved width := by
  unfold Draft.read
  split <;> rfl

theorem step_moved (place : Place) (column width : Nat) (c : Char) (gap : Bool) :
    (place.moved width).step (column + width) c gap
      = ((place.step column c gap).map fun (out, next) => (out, next.moved width)).mapError (·.moved width) := by
  cases place with
  | between =>
    unfold Place.moved Place.step
    dsimp only
    rw [read_moved]
    split
    · rfl
    · split
      · split <;> rfl
      · rfl
  | inToken draft =>
    unfold Place.moved Place.step
    dsimp only
    rw [read_moved]
    split <;> rfl
  | inQuotes draft opened =>
    unfold Place.moved Place.step
    dsimp only
    split <;> rfl

/-- Columns are for errors only: a text further to the right has the same tokens, and its errors move with it. -/
theorem scan_moved (place : Place) (column width : Nat) (cs : List Char) :
    scan (place.moved width) (column + width) cs = (scan place column cs).mapError (·.moved width) := by
  induction cs generalizing place column with
  | nil => cases place <;> rfl
  | cons c rest ih =>
    rw [scan_cons, scan_cons, step_moved]
    cases place.step column c (atGap rest) with
    | error e => rfl
    | ok stepped =>
      obtain ⟨out, next⟩ := stepped
      have behind := ih next (column + 1)
      rw [Nat.add_right_comm] at behind
      show (scan (next.moved width) (column + width + 1) rest).map (out ++ ·)
        = ((scan next (column + 1) rest).map (out ++ ·)).mapError (·.moved width)
      rw [behind, map_mapError]

variable {w : Char} {front back : List Char}

/-- A gap stays one when a blank follows the text. -/
theorem atGap_beside (blank : isBlank w = true) : atGap (front ++ w :: back) = atGap front := by
  cases front with
  | nil => exact blank
  | cons c rest => rfl

/-- **The seam.** Behind a text that can be read and a blank, the reader stands between tokens. -/
theorem scan_beside (blank : isBlank w = true) {place : Place} {column : Nat} {tokens : List Token}
    (read : scan place column front = .ok tokens) :
    scan place column (front ++ w :: back) = (scan .between (column + front.length + 1) back).map (tokens ++ ·) := by
  induction front generalizing place column tokens with
  | nil =>
    rw [scan_nil] at read
    rw [List.nil_append, scan_cons, Place.step_of_finish read blank]
    rfl
  | cons c rest ih =>
    obtain ⟨out, next, more, stepped, behind, rfl⟩ := exists_step_of_scan read
    rw [List.cons_append, scan_cons, atGap_beside blank, stepped, List.length_cons, ← Nat.add_assoc,
      Nat.add_right_comm column, ← map_append_append, ← ih behind]
    rfl

theorem tokenize_beside (blank : isBlank w = true) {tokens : List Token} (read : tokenize front = .ok tokens) :
    tokenize (front ++ w :: back)
      = ((tokenize back).mapError (·.moved (front.length + 1))).map (tokens ++ ·) := by
  have seam : scan .between 0 (front ++ w :: back) = (scan .between (0 + front.length + 1) back).map (tokens ++ ·) :=
    scan_beside blank read
  have behind := scan_moved .between 0 (front.length + 1) back
  rw [Nat.zero_add] at seam behind
  exact seam.trans (congrArg (·.map (tokens ++ ·)) behind)

end Token

theorem criteria_cons {t : Token} {c : Criterion} (found : t.criterion = .ok c) (rest : List Token) :
    criteria (t :: rest) = (criteria rest).map (c :: ·) := by
  rw [criteria, found]

theorem criteria_append {first : List Token} {cs : List Criterion} (read : criteria first = .ok cs)
    (second : List Token) : criteria (first ++ second) = (criteria second).map (cs ++ ·) := by
  induction first generalizing cs with
  | nil =>
    obtain rfl : [] = cs := Except.ok.inj read
    exact (map_nil_append _).symm
  | cons t rest ih =>
    unfold criteria at read
    split at read
    · cases read
    · next c found =>
      obtain ⟨more, behind, rfl⟩ := exists_of_map_eq_ok read
      rw [List.cons_append, criteria_cons found, ih behind]
      exact map_append_append _ [c] more

/-- The error of a value has no column. -/
theorem moved_of_check {key : MetaKey} {value : String} {e : SearchError} (refused : key.check value = .error e)
    (width : Nat) : e.moved width = e := by
  unfold MetaKey.check at refused
  cases key with
  | package => cases refused
  | sort | order | after | before | kind =>
    dsimp only at refused
    split at refused
    · cases refused
    · obtain rfl := Except.error.inj refused
      rfl

theorem moved_of_criterion {t : Token} {e : SearchError} (refused : t.criterion = .error e) (width : Nat) :
    e.moved width = e := by
  unfold Token.criterion at refused
  split at refused
  · cases refused
  · dsimp only at refused
    split at refused
    · exact moved_of_check (error_of_map refused) width
    · split at refused <;> cases refused

theorem moved_of_criteria {tokens : List Token} {e : SearchError} (refused : criteria tokens = .error e) (width : Nat) :
    e.moved width = e := by
  induction tokens with
  | nil => cases refused
  | cons t rest ih =>
    unfold criteria at refused
    split at refused
    · next found =>
      obtain rfl := Except.error.inj refused
      exact moved_of_criterion found width
    · exact ih (error_of_map refused)

namespace Search

/-- The search that asks for what two searches ask for. -/
instance : Append Search where
  append s t := { keywords := s.keywords ++ t.keywords, tags := s.tags ++ t.tags, metas := s.metas ++ t.metas }

theorem ofCriteria_append (first second : List Criterion) :
    ofCriteria (first ++ second) = ofCriteria first ++ ofCriteria second := by
  unfold ofCriteria
  simp only [List.filterMap_append]
  rfl

variable {a b : String} {w : Char} {s : Search}

/-- A text behind a text that can be read and a blank is read as it is alone, further to the right. -/
theorem parse_append (blank : isBlank w = true) (parsed : parse a = .ok s) (b : String) :
    parse (a ++ String.singleton w ++ b) = ((parse b).mapError (·.moved (a.length + 1))).map (s ++ ·) := by
  obtain ⟨tokens, cs, scanned, found, rfl⟩ := exists_criteria_of_parse parsed
  have text : (a ++ String.singleton w ++ b).toList = a.toList ++ w :: b.toList := by simp
  unfold parse
  rw [text, Token.tokenize_beside blank scanned, String.length_toList]
  cases Token.tokenize b.toList with
  | error e => rfl
  | ok more =>
    show (criteria (tokens ++ more)).map ofCriteria = (((criteria more).map ofCriteria).mapError _).map _
    rw [criteria_append found]
    cases behind : criteria more with
    | error e => exact congrArg Except.error (moved_of_criteria behind _).symm
    | ok cs' => exact congrArg Except.ok (ofCriteria_append cs cs')

/-- **Search texts are read one after the other.** If a text can be read, what follows it and a blank adds its own filters
behind those of the text, or is refused as it would be alone, but for the column in the error. -/
theorem parse_beside (blank : isBlank w = true) (parsed : parse a = .ok s) (b : String) :
    (∀ t, parse b = .ok t → parse (a ++ String.singleton w ++ b) = .ok {
      keywords := s.keywords ++ t.keywords, tags := s.tags ++ t.tags, metas := s.metas ++ t.metas }) ∧
    ∀ e, parse b = .error e → parse (a ++ String.singleton w ++ b) = .error (e.moved (a.length + 1)) := by
  have seam := parse_append blank parsed b
  constructor
  · intro t read
    rw [seam, read]
    rfl
  · intro e refused
    rw [seam, refused]
    rfl

theorem parse_beside_cats :
    let cats : Search := {
      keywords := [{ value := "cat" }], tags := [{ value := ⟨"misc", "big ears"⟩, negated := true }] }
    let newest : Search := { keywords := [{ value := "nap" }], metas := [{ key := .sort, value := "modify" }] }
    isBlank '\u3000' = true ∧ parse "cat -misc:\"big ears\"" = .ok cats ∧
      parse "nap sort:modify" = .ok newest ∧
      parse ("cat -misc:\"big ears\"" ++ String.singleton '\u3000' ++ "nap sort:modify") = .ok (cats ++ newest) ∧
      parse "nap \"of" = .error (.unterminatedQuote 4) ∧
      parse ("cat -misc:\"big ears\"" ++ String.singleton '\u3000' ++ "nap \"of") = .error (.unterminatedQuote 25) := by
  intro cats newest
  have blank : isBlank '\u3000' = true := by decide
  have parsed : parse "cat -misc:\"big ears\"" = .ok cats := by rfl
  have read : parse "nap sort:modify" = .ok newest := by rfl
  have refused : parse "nap \"of" = .error (.unterminatedQuote 4) := by rfl
  exact ⟨blank, parsed, read, (parse_beside blank parsed _).1 newest read, refused,
    (parse_beside blank parsed _).2 _ refused⟩

end Search

end StickerBook
