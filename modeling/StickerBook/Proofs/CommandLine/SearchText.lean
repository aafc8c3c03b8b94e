import StickerBook.CommandLine.Invocation
import StickerBook.Proofs.Except
import StickerBook.Search.Parse

/-!
# Search texts on the command line

A search text may begin with a dash, which negates its first word, but on the command line an argument that begins
with a dash is an option. So a search text is read as such exactly if it does not begin with a dash
(`takes_searchText`). One that does is refused, or the command does without a text and the options spelt by the text
are carried out in its place. Behind the argument `--` every text is read.
-/

namespace StickerBook.CommandLine
set_option autoImplicit false

namespace Arguments
variable {a a' : Arguments} {known : List Opt} {argument : String}

theorem text_store {o : Opt} {value : String} (stored : a.store o value = .ok a') : a'.text = a.text := by
  unfold store at stored
  split at stored
  · cases stored
  · split at stored
    · split at stored
      · obtain rfl := Except.ok.inj stored
        rfl
      · cases stored
    · split at stored
      · cases stored
      · obtain rfl := Except.ok.inj stored
        rfl

theorem text_settle (settled : a.settle = .ok a') : a'.text = a.text := by
  unfold settle at settled
  split at settled
  · obtain rfl := Except.ok.inj settled
    rfl
  · cases settled
  · have stored := text_store settled
    exact stored

theorem text_addOption {o : Opt} {attached : Option String} (added : a.addOption o attached = .ok a') :
    a'.text = a.text := by
  unfold addOption at added
  split at added
  · obtain ⟨b, settled, added⟩ := exists_of_bind_eq_ok added
    rw [← text_settle settled]
    cases attached with
    | none =>
      obtain rfl := Except.ok.inj added
      rfl
    | some value => exact text_store added
  · split at added
    · cases added
    · obtain ⟨b, settled, added⟩ := exists_of_bind_eq_ok added
      rw [← text_settle settled]
      split at added
      · cases added
      · cases added
      · exact text_store added

theorem text_addLong {name : List Char} (added : a.addLong known argument name = .ok a') : a'.text = a.text := by
  unfold addLong at added
  dsimp only at added
  split at added
  · cases added
  · exact text_addOption added

theorem text_addLetters {letters : List Char} (added : addLetters known argument letters a = .ok a') :
    a'.text = a.text := by
  induction letters generalizing a with
  | nil =>
    obtain rfl := Except.ok.inj added
    rfl
  | cons c rest ih =>
    unfold addLetters at added
    split at added
    · cases added
    · split at added
      · exact text_addOption added
      · obtain ⟨b, first, later⟩ := exists_of_bind_eq_ok added
        rw [ih later, text_addOption first]

/-- An argument that begins with a dash leaves the text alone, unless it is a lone dash or options have ended. -/
theorem text_add {onText : String → Arguments → Except UsageError Arguments}
    (dash : argument.toList.head? = some '-') (more : argument ≠ "-") (options : a.optionsEnded = false)
    (added : a.add known onText argument = .ok a') : a'.text = a.text := by
  unfold add at added
  rw [options, if_neg Bool.false_ne_true] at added
  split at added
  · obtain rfl := Except.ok.inj added
    rfl
  · exact text_addLong added
  · exact text_addLetters added
  · next ended long letters =>
    -- the first character is the dash, and there is no second one
    cases cs : argument.toList with
    | nil =>
      rw [cs] at dash
      cases dash
    | cons c rest =>
      rw [cs] at dash
      obtain rfl := Option.some.inj dash
      cases rest with
      | nil => exact absurd (String.toList_inj.1 cs) more
      | cons d rest => exact absurd cs (letters d rest)

/-- Any other argument is a text. -/
theorem add_plain {onText : String → Arguments → Except UsageError Arguments}
    (plain : argument.toList.head? ≠ some '-') (settled : a.pending = none) :
    a.add known onText argument = onText argument a := by
  have taken : a.addPlain onText argument = onText argument a := by
    unfold addPlain
    rw [settled]
  unfold add
  split
  · exact taken
  · split
    · next cs => exact absurd (by rw [cs]; rfl) plain
    · next cs => exact absurd (by rw [cs]; rfl) plain
    · next cs => exact absurd (by rw [cs]; rfl) plain
    · exact taken

end Arguments

namespace Invocation
variable {v : Verb} {text : String} {args : List String}

theorem parse_verb (v : Verb) (args : List String) : parse (v.name :: args) = ofVerb {} v args := by
  cases v <;> rfl

/-- The arguments of a command that is carried out have been read and settled. -/
theorem exists_of_ofVerb {i : Invocation} (read : ofVerb {} v args = .ok i) :
    ∃ a settled, args.foldlM (Arguments.add v.known Arguments.addText) {} = .ok a ∧ a.settle = .ok settled ∧
      v.command settled = .ok i.command := by
  obtain ⟨a, taken, read⟩ := exists_of_bind_eq_ok read
  obtain ⟨settled, checked, read⟩ := exists_of_bind_eq_ok read
  obtain ⟨command, named, read⟩ := exists_of_bind_eq_ok read
  obtain ⟨before, -, read⟩ := exists_of_bind_eq_ok read
  refine ⟨a, settled, taken, checked, ?_⟩
  rw [← Except.ok.inj read]
  exact named

/-- The command does without a text if its only argument begins with a dash. -/
theorem exists_of_dash {i : Invocation} (dash : text.toList.head? = some '-') (more : text ≠ "-")
    (read : parse [v.name, text] = .ok i) : ∃ a : Arguments, a.text = none ∧ v.command a = .ok i.command := by
  rw [parse_verb] at read
  obtain ⟨a, settled, taken, checked, command⟩ := exists_of_ofVerb read
  obtain ⟨b, added, same⟩ := exists_of_bind_eq_ok taken
  obtain rfl := Except.ok.inj same
  have left := Arguments.text_add dash more rfl added
  exact ⟨settled, (Arguments.text_settle checked).trans left, command⟩

/-- An argument that does not begin with a dash is the text of its command. -/
theorem parse_plain (plain : text.toList.head? ≠ some '-') :
    parse [v.name, text] = (v.command { text := some text }).map fun command => { command } := by
  rw [parse_verb]
  unfold ofVerb
  rw [List.foldlM_cons, Arguments.add_plain plain rfl]
  cases v <;> rfl

/-- So is any argument after the options have been ended. -/
theorem parse_escaped (v : Verb) (text : String) :
    parse [v.name, "--", text] = (v.command { text := some text }).map fun command => { command } := by
  rw [parse_verb]
  cases v <;> rfl

/-- How the commands that search read a text that is their only argument. -/
structure TakesText (text : String) : Prop where
  search : parse ["search", text] = .ok { command := .search text 0 } ↔ text.toList.head? ≠ some '-'
  sql : parse ["sql", text] = .ok { command := .sql text 0 false } ↔ text.toList.head? ≠ some '-'
  /-- Behind a dash the text is lost: a search is carried out for a blank one, if at all, and a statement is refused. -/
  searchesBlank : text.toList.head? = some '-' →
    ∀ i, parse ["search", text] = .ok i → ∃ page, i.command = .search "" page
  refused : text.toList.head? = some '-' → ∀ i, parse ["sql", text] ≠ .ok i
  searchEscaped : parse ["search", "--", text] = .ok { command := .search text 0 }
  sqlEscaped : parse ["sql", "--", text] = .ok { command := .sql text 0 false }

/-- **Search texts on the command line.** A text that can be searched for is read unless it begins with a dash. -/
theorem takes_searchText {search : Search} (accepted : Search.parse text = .ok search) : TakesText text := by
  -- a lone dash would be a text on the command line, but it is none to search for
  have more : text ≠ "-" := by
    rintro rfl
    cases accepted
  have searchesBlank (dash : text.toList.head? = some '-') (i : Invocation) (read : parse ["search", text] = .ok i) :
      ∃ page, i.command = .search "" page := by
    obtain ⟨a, blank, command⟩ := exists_of_dash (v := .search) dash more read
    unfold Verb.command at command
    rw [blank] at command
    exact ⟨_, (Except.ok.inj command).symm⟩
  have refused (dash : text.toList.head? = some '-') (i : Invocation) : parse ["sql", text] ≠ .ok i := by
    intro read
    obtain ⟨a, blank, command⟩ := exists_of_dash (v := .sql) dash more read
    unfold Verb.command at command
    rw [blank] at command
    cases command
  refine ⟨⟨fun read dash => ?_, parse_plain (v := .search)⟩, ⟨fun read dash => ?_, parse_plain (v := .sql)⟩,
    searchesBlank, refused, parse_escaped .search text, parse_escaped .sql text⟩
  · obtain ⟨page, command⟩ := searchesBlank dash _ read
    obtain ⟨rfl, -⟩ := Command.search.inj command
    cases dash
  · exact refused dash _ read

theorem takes_searchText_cat : (Search.parse "cat -misc:nsfw").isOk ∧ TakesText "cat -misc:nsfw" := by
  cases accepted : Search.parse "cat -misc:nsfw" with
  | error e =>
    have reads : (Search.parse "cat -misc:nsfw").isOk = true := by decide +kernel
    rw [accepted] at reads
    cases reads
  | ok search => exact ⟨rfl, takes_searchText accepted⟩

/-- A text that leaves out a tag is refused, and one that leaves out a word is taken for an option. -/
theorem searchText_lost :
    ((Search.parse "-misc:nsfw").isOk ∧ parse ["search", "-misc:nsfw"] = .error (.unknownArgument "-misc:nsfw") ∧
      parse ["sql", "-misc:nsfw"] = .error (.unknownArgument "-misc:nsfw")) ∧
    ((Search.parse "-v").isOk ∧ parse ["search", "-v"] = .ok { verbose := true, command := .search "" 0 } ∧
      parse ["sql", "-v"] = .error .missingText) := by
  have excluded : (Search.parse "-misc:nsfw").isOk = true := by decide +kernel
  have negated : (Search.parse "-v").isOk = true := by decide +kernel
  exact ⟨⟨excluded, rfl, rfl⟩, ⟨negated, rfl, rfl⟩⟩

end Invocation

end StickerBook.CommandLine
