import StickerBook.CommandLine.Run
import StickerBook.Proofs.Editor.Fetching
import StickerBook.Proofs.Editor.Highlight
import StickerBook.Proofs.Library.Listing
import StickerBook.Proofs.Suggest.Package
import StickerBook.Proofs.Text.Lines

/-!
# What commands print

A search prints a record for each row that the library finds on the page, and a last one that counts the pages. A
suggestion prints a record for each choice, of which the first is marked. Names are printed as they are, so the records are
the lines of the output unless a name that is printed has a line break in it (`Text.linesOf_join_iff`). The rows and choices
come from lookups, but neither the number of these nor the order of their answers can be seen (`reports_run`).
-/

namespace StickerBook.CommandLine
set_option autoImplicit false
open Editor (Combobox SearchPage packageCombobox)
open Editor.SearchPage (Event Run)
open Files (Disk)
open Lookup (Outcome Session Widget)
open Text (Unbroken linesOf linesOf_join linesOf_join_iff linesOf_of_unbroken unbroken_append_iff)

/-- A row as it is printed. -/
def rowText (t : Thumb) : String :=
  toString t.id ++ "\t" ++ t.name ++ "\t" ++ t.package ++ "\t" ++ (match t.kind with | .pic => "pic" | .text => "text")
    ++ (if t.fav then "\t*" else "")

/-- What is printed below the rows. -/
def pageText (page pages : Nat) : String := "page " ++ toString (page + 1) ++ "/" ++ toString pages

theorem unbroken_toString (n : Nat) : Unbroken (toString n) := Text.notMem_toString (by decide) n

/-- A row is broken by the line breaks in its name and its package only. -/
theorem unbroken_rowText_iff {t : Thumb} : Unbroken (rowText t) ↔ Unbroken t.name ∧ Unbroken t.package := by
  have tab : Unbroken "\t" := by decide
  have kind : Unbroken (match t.kind with | .pic => "pic" | .text => "text") := by cases t.kind <;> decide
  have star : Unbroken (if t.fav then "\t*" else "") := by cases t.fav <;> decide
  unfold rowText
  simp only [unbroken_append_iff, unbroken_toString, tab, kind, star, true_and, and_true]

theorem unbroken_pageText (page pages : Nat) : Unbroken (pageText page pages) := by
  have word : Unbroken "page " := by decide
  have slash : Unbroken "/" := by decide
  unfold pageText
  simp only [unbroken_append_iff, unbroken_toString, word, slash, and_self]

theorem unbroken_choice_iff {label : String} : Unbroken ("  " ++ label) ↔ Unbroken label := by
  have blanks : Unbroken "  " := by decide
  simp only [unbroken_append_iff, blanks, true_and]

/-- The rows and what is below them are printed as records. -/
theorem join_rowLine_append (rows : List Thumb) (page pages : Nat) : String.join (rows.map rowLine) ++ pageLine page pages
    = String.join ((rows.map rowText ++ [pageText page pages]).map (· ++ "\n")) := by
  have row (t : Thumb) : rowLine t = rowText t ++ "\n" := by
    unfold rowLine rowText
    cases t.kind <;> rfl
  have last : String.join [pageText page pages ++ "\n"] = pageLine page pages := by
    rw [String.join_cons]
    exact String.append_empty
  rw [List.map_append, String.join_append, List.map_map, List.map_singleton, last, funext row]
  rfl

variable {l : Library} {query text : String} {page : Nat} {rows : List Thumb}

theorem findThumbs_of_search (found : l.search query page = .ok rows) : l.findThumbs query page = .ready rows := by
  unfold Library.findThumbs
  rw [found]

/-- The search page of a command shows the rows that the library finds. -/
theorem rows_searchPage (ready : l.findThumbs query page = .ready rows) : (searchPage l query page).rows = rows := by
  let asked := Run.ofEvents [.setInput query, .setPage page]
  let answers := Run.answers l.findThumbs asked.exchange.inFlight
  have bound : asked.exchange.requests.length < UInt64.size := by
    have requests : asked.exchange.requests.length ≤ 3 := Run.length_requests_foldl_le _ Run.start
    exact Nat.lt_of_le_of_lt requests (by decide)
  have unanswered : asked.exchange.replies = [] :=
    (Lookup.Exchange.replies_issue _ _ _).trans (Lookup.Exchange.replies_issue _ _ _)
  have follows : Run.Follows _ l.findThumbs asked :=
    ((Run.Follows.start l.findThumbs).setInput query).setPage page
  have whole : searchPage l query page = ((answers.foldl Run.after asked).after .settle).page :=
    follows.settle (Run.isPending_of_unanswered (Run.Sound.ofEvents _ bound) unanswered)
  have served : Run.ofEvents ([.setInput query, .setPage page] ++ answers) = answers.foldl Run.after asked :=
    List.foldl_append
  rw [Run.foldl_answers rfl] at served
  have shown : (Run.ofEvents ([.setInput query, .setPage page] ++ answers)).Shows rows := by
    refine (Run.shows_of_changes ?_ ?_ ready).2
    · rw [List.filter_append, Run.filter_answers]
      rfl
    · intro q outcome replied
      rw [served, unanswered] at replied
      obtain ⟨q', -, same⟩ := List.mem_map.1 replied
      obtain ⟨rfl, rfl⟩ := Prod.mk.inj same
      rfl
  have settled := shown.settles fun q _ flying => by
    rw [served] at flying
    cases flying
  rw [whole, Run.foldl_answers rfl, ← served]
  exact settled.2

/-- The package box of a command offers the choices that the library has for the text, and the first is highlighted. -/
theorem packageBox_eq (l : Library) (text : String) :
    (packageBox l text).candidates = l.offeredPackages text ∧ (packageBox l text).highlighted = some 0 := by
  let request : Lookup.Request := { seq := 1, query := text, page := 0 }
  let opened : Combobox String := (packageCombobox.setInput text).2.openList.2
  let s : Session (Combobox String) String (Choice String) := {
    widget := opened
    backend := { source := packageSuggestions l.findPackages }
    queue := [request].map (Lookup.queueEntry .interactive) }
  let answered : Combobox String := Widget.deliver opened ((packageSuggestions l.findPackages).response request)
  have whole : packageBox l text = (Widget.settle answered).2 := Session.widget_settle (s := s) rfl rfl rfl rfl
  rw [whole]
  constructor
  · rfl
  · have home : (Widget.settle answered).2.AtHome := answered.atHome_update rfl
    exact (home 0).2 (.inl ⟨.plain defaultPackage, rfl, rfl, fun j early => absurd early (Nat.not_lt_zero j)⟩)

/-- A page that settings allow holds a row. -/
theorem pageSize_of_parse {path content : String} {s : Settings} (parsed : Settings.parse path content = .ok s) :
    0 < s.pageSize := by
  unfold Settings.parse at parsed
  split at parsed
  · cases parsed
  · split at parsed
    · cases parsed
    · next nonzero =>
      obtain rfl := Except.ok.inj parsed
      exact Nat.pos_of_ne_zero nonzero

theorem pageSize_of_load {disk : Disk Id} {path : String} {s : Settings}
    (loaded : Id.run (Settings.load disk path) = .ok s) : 0 < s.pageSize := by
  unfold Settings.load at loaded
  simp only [Id.run_bind] at loaded
  split at loaded
  · cases loaded
  · exact pageSize_of_parse loaded

theorem pageSize_of_loadOrDefault {disk : Disk Id} {dirs : UserDirs} {path? : Option String} {s : Settings}
    (loaded : Id.run (Settings.loadOrDefault disk dirs path?) = .ok s) : 0 < s.pageSize := by
  unfold Settings.loadOrDefault at loaded
  split at loaded
  · exact pageSize_of_load loaded
  · obtain rfl := Except.ok.inj loaded
    decide
  · simp only [Id.run_bind] at loaded
    split at loaded
    · exact pageSize_of_load loaded
    · obtain rfl := Except.ok.inj loaded
      decide

/-- A library is loaded with the page size that is set. -/
theorem pageSize_of_loadLibrary {disk : Disk Id} {dirs : UserDirs} {s : Settings} {path? : Option String}
    (positive : 0 < s.pageSize) (loaded : Id.run (loadLibrary disk dirs s path?) = .ok l) :
    l.pageSize = s.pageSize := by
  unfold loadLibrary at loaded
  split at loaded
  · cases loaded
  · next path _ =>
    simp only [Id.run_bind, Id.run_pure] at loaded
    cases file : Id.run (Library.load disk path) with
    | error e =>
      rw [file] at loaded
      cases loaded
    | ok l' =>
      rw [file] at loaded
      obtain rfl := Except.ok.inj loaded
      exact Nat.max_eq_left positive

/-- What is printed for a search: the rows of the page, and below them its number and the number of pages. -/
structure PrintsRows (l : Library) (query : String) (page : Nat) (rows : List Thumb) (pages : Nat) (printed : String) :
    Prop where
  found : l.search query page = .ok rows
  counted : l.countPages query = .ok pages
  whole : printed = String.join ((rows.map rowText ++ [pageText page pages]).map (· ++ "\n"))
  /-- There is one line for each row and one below them exactly if no line break is printed as a part of a row. -/
  lines : linesOf printed = rows.map rowText ++ [pageText page pages] ++ [""]
    ↔ ∀ t ∈ rows, Unbroken t.name ∧ Unbroken t.package
  /-- A search page for the text and the page number shows these rows, in whatever order its lookups are answered. -/
  anyOrder : ∀ events, events.filter Event.changes = [.setInput query, .setPage page] →
    (Run.ofEvents events).AnsweredBy l.findThumbs →
    (Run.ofEvents events).exchange.requests.length ≤ 3 ∧ (Run.ofEvents events).Shows rows

/-- What is printed for a suggestion: the choices for the text. Only the first, the default package, is marked. -/
structure PrintsChoices (l : Library) (text : String) (others : List (Choice String)) (printed : String) : Prop where
  offered : (packageSuggestions l.findPackages).answer text 0 = .ready (.plain defaultPackage :: others)
  whole : printed = String.join (("> Inbox" :: others.map fun c => "  " ++ c.label).map (· ++ "\n"))
  /-- There is one line for each choice exactly if no line break is printed as a part of one. -/
  lines : linesOf printed = ("> Inbox" :: others.map fun c => "  " ++ c.label) ++ [""] ↔ ∀ c ∈ others, Unbroken c.label

theorem printsRows_searchOutput {search : Search} (parsed : Search.parse query = .ok search) (page : Nat) :
    ∃ rows pages printed, searchOutput l query page = .ok printed ∧ PrintsRows l query page rows pages printed := by
  have found := l.search_of_parse parsed page
  have counted := l.countPages_of_parse parsed
  have ready := findThumbs_of_search found
  refine ⟨_, _, _, ?_, found, counted, rfl, ?_, fun events changes answered => Run.shows_of_changes changes answered ready⟩
  · unfold searchOutput
    rw [counted, rows_searchPage ready, ← join_rowLine_append]
    rfl
  · rw [linesOf_join_iff]
    simp only [List.forall_mem_append, List.forall_mem_map, List.forall_mem_singleton, unbroken_rowText_iff,
      unbroken_pageText, and_true]

theorem printsChoices_suggestOutput (l : Library) (text : String) :
    ∃ others, PrintsChoices l text others (suggestOutput l text) := by
  obtain ⟨others, offered⟩ : ∃ others, l.offeredPackages text = .plain defaultPackage :: others := ⟨_, rfl⟩
  obtain ⟨candidates, highlighted⟩ := packageBox_eq l text
  have whole : suggestOutput l text = String.join (("> Inbox" :: others.map fun c => "  " ++ c.label).map (· ++ "\n")) := by
    unfold suggestOutput
    dsimp only
    rw [candidates, highlighted, offered, List.mapIdx_cons, List.map_cons, String.join_cons, String.join_cons]
    congr 2
    apply List.ext_getElem?
    intro i
    simp [choiceLine, Function.comp_def]
  refine ⟨others, ?_, whole, ?_⟩
  · rw [l.answer_packageSuggestions text 0, offered]
  · have inbox : Unbroken "> Inbox" := by decide
    rw [whole, linesOf_join_iff]
    simp only [List.forall_mem_cons, List.forall_mem_map, inbox, unbroken_choice_iff, true_and]

/-- What a command line prints that is read as `i`, under the settings `s` and over the library `l`. -/
structure Reports (printed : Except Failure String) (i : Invocation) (s : Settings) (l : Library) : Prop where
  pageSize : l.pageSize = s.pageSize
  search : ∀ query page search, i.command = .search query page → Search.parse query = .ok search →
    ∃ rows pages text, printed = .ok text ∧ PrintsRows l query page rows pages text
  suggest : ∀ input, i.command = .suggest input →
    ∃ others text, printed = .ok text ∧ PrintsChoices l input others text

section
variable {disk : Disk Id} {dirs : UserDirs} {args : List String} {i : Invocation} {s : Settings}
  (read : Invocation.parse args = .ok i) (settings : Id.run (Settings.loadOrDefault disk dirs i.config) = .ok s)
  (loaded : Id.run (loadLibrary disk dirs s i.library) = .ok l)
include read settings loaded

theorem run_search {search : Search} (command : i.command = .search query page) (parsed : Search.parse query = .ok search) :
    Id.run (run disk dirs args) = (searchOutput l query page).mapError (.search query) := by
  unfold run
  rw [read]
  simp only [Id.run_bind, settings]
  unfold runCommand
  rw [command]
  simp only [parsed, Id.run_bind, loaded, Id.run_pure]

theorem run_suggest (command : i.command = .suggest text) : Id.run (run disk dirs args) = .ok (suggestOutput l text) := by
  unfold run
  rw [read]
  simp only [Id.run_bind, settings]
  unfold runCommand
  rw [command]
  simp only [Id.run_bind, loaded, Id.run_pure]
  rfl

/-- **A command prints what the library finds**, neither more nor less, whatever the order of its lookups. -/
theorem reports_run : Reports (Id.run (run disk dirs args)) i s l where
  pageSize := pageSize_of_loadLibrary (pageSize_of_loadOrDefault settings) loaded
  search := by
    intro query page search command parsed
    obtain ⟨rows, pages, text, output, prints⟩ := printsRows_searchOutput (l := l) parsed page
    refine ⟨rows, pages, text, ?_, prints⟩
    rw [run_search read settings loaded command parsed, output]
    rfl
  suggest := by
    intro input command
    obtain ⟨others, prints⟩ := printsChoices_suggestOutput l input
    exact ⟨others, _, run_suggest read settings loaded command, prints⟩

end

/-- A library with one sticker that a search selects shows it on the first page, which is the only one. -/
theorem search_single {search : Search} {x : Sticker} (parsed : Search.parse query = .ok search) (stickers : l.stickers = [x])
    (selected : x.satisfies search = true) : l.search query 0 = .ok [x.thumb] ∧ l.countPages query = .ok 1 := by
  have thumbs : l.thumbs search = [x.thumb] := by
    have rows : [x].filter (·.satisfies search) = [x] := List.filter_cons_of_pos selected
    unfold Library.thumbs Search.rows
    rw [stickers, rows, List.mergeSort_singleton, List.map_singleton]
  have page : pageOf l.pageSize 0 [x.thumb] = [x.thumb] := by
    have bound : [x.thumb].length ≤ maxWord := Nat.succ_le_of_lt (by decide : 0 < maxWord)
    rw [pageOf_eq bound, Nat.zero_mul, List.drop_zero, List.take_of_length_le l.pageSize_pos]
  have pages : pageCount 1 l.pageSize = 1 := by
    have fits : 1 ≤ 1 * l.pageSize := (Nat.one_mul l.pageSize).symm ▸ l.pageSize_pos
    exact Nat.le_antisymm ((pageCount_le_iff l.pageSize_pos).2 ⟨Nat.le_refl 1, fits⟩) (one_le_pageCount 1 l.pageSize_pos)
  rw [l.search_of_parse parsed, l.countPages_of_parse parsed, thumbs, page]
  exact ⟨rfl, congrArg Except.ok pages⟩

/-- What is printed for such a search, line by line. -/
theorem PrintsRows.linesOf_single {search : Search} {x : Sticker} {pages : Nat} {printed : String}
    (prints : PrintsRows l query 0 rows pages printed) (parsed : Search.parse query = .ok search)
    (stickers : l.stickers = [x]) (selected : x.satisfies search = true) :
    linesOf printed = linesOf (rowText x.thumb) ++ ["page 1/1", ""] := by
  obtain ⟨found, counted⟩ := search_single parsed stickers selected
  obtain rfl := Except.ok.inj (found.symm.trans prints.found)
  obtain rfl := Except.ok.inj (counted.symm.trans prints.counted)
  rw [prints.whole, linesOf_join]
  simp only [List.map_singleton, List.singleton_append, List.flatMap_cons, List.flatMap_nil, List.append_nil,
    linesOf_of_unbroken (unbroken_pageText 0 1), List.append_assoc]
  rfl

/-- A disk on which every file is that of a library with a cat. -/
def catDisk : Disk Id where
  readBytes _ := .ok "\x7b\"stickers\": [\x7b\"id\": 1, \"name\": \"cat\"\x7d]\x7d".toUTF8
  isFile _ := false

theorem reports_run_cat :
    let dirs : UserDirs := { config := none, data := some "data" }
    let printed := Id.run (run catDisk dirs ["search", "cat"])
    ∃ i l, Invocation.parse ["search", "cat"] = .ok i ∧
      Id.run (Settings.loadOrDefault catDisk dirs i.config) = .ok {} ∧
      Id.run (loadLibrary catDisk dirs {} i.library) = .ok l ∧ Reports printed i {} l ∧
      ∃ text, printed = .ok text ∧ linesOf text = ["1\tcat\tInbox\tpic", "page 1/1", ""] := by
  intro dirs printed
  let cat : Sticker := { id := 1, name := "cat" }
  let i : Invocation := { command := .search "cat" 0 }
  let search : Search := { keywords := [{ value := "cat" }] }
  have read : Invocation.parse ["search", "cat"] = .ok i := by decide +kernel
  have parsed : Search.parse "cat" = .ok search := by rfl
  have contents : (Id.run (loadLibrary catDisk dirs {} none)).map Library.stickers = .ok [cat] := by decide +kernel
  obtain ⟨l, loaded, stickers⟩ := exists_of_map_eq_ok contents
  have reports : Reports printed i {} l := reports_run read rfl loaded
  obtain ⟨rows, pages, text, output, prints⟩ := reports.search "cat" 0 search rfl parsed
  refine ⟨i, l, read, rfl, loaded, reports, text, output, ?_⟩
  rw [prints.linesOf_single parsed stickers (by decide +kernel)]
  decide

/-- A disk on which every file is that of a library with line breaks in a name and in a package. -/
def brokenDisk : Disk Id where
  readBytes _ := .ok ("\x7b\"packages\": [\"Cats\\n> Dogs\"], " ++
    "\"stickers\": [\x7b\"id\": 1, \"name\": \"sleepy\\ncat\"\x7d]\x7d").toUTF8
  isFile _ := false

/-- The one row of a search takes two lines, and the second choice of a suggestion brings a second marked line. -/
theorem lines_broken_by_names :
    let dirs : UserDirs := { config := none, data := some "data" }
    let sleepy : Sticker := { id := 1, name := "sleepy\ncat" }
    ∃ l printed suggested, Id.run (loadLibrary brokenDisk dirs {} none) = .ok l ∧
      l.search "cat" 0 = .ok [sleepy.thumb] ∧ l.countPages "cat" = .ok 1 ∧
      Id.run (run brokenDisk dirs ["search", "cat"]) = .ok printed ∧
      linesOf printed = ["1\tsleepy", "cat\tInbox\tpic", "page 1/1", ""] ∧
      Id.run (run brokenDisk dirs ["suggest", "Cats"]) = .ok suggested ∧
      linesOf suggested = ["> Inbox", "  Create \"Cats\"", "  Cats", "> Dogs", ""] := by
  intro dirs sleepy
  let search : Search := { keywords := [{ value := "cat" }] }
  have parsed : Search.parse "cat" = .ok search := by rfl
  have contents : (Id.run (loadLibrary brokenDisk dirs {} none)).map (fun l => (l.stickers, l.packages.names))
      = .ok ([sleepy], ["Cats\n> Dogs", "Inbox"]) := by decide +kernel
  obtain ⟨l, loaded, held⟩ := exists_of_map_eq_ok contents
  obtain ⟨stickers, packages⟩ := Prod.mk.inj held
  have selected : sleepy.satisfies search = true := by decide +kernel
  obtain ⟨found, counted⟩ := search_single parsed stickers selected
  obtain ⟨rows, pages, printed, output, prints⟩ := printsRows_searchOutput (l := l) parsed 0
  obtain ⟨others, choices⟩ := printsChoices_suggestOutput l "Cats"
  have offered : l.offeredPackages "Cats"
      = [.plain defaultPackage, .creation "Cats", .plain "Cats\n> Dogs"] := by
    unfold Library.offeredPackages Library.searchPackages
    rw [packages]
    decide +kernel
  have same := choices.offered.symm.trans (l.answer_packageSuggestions "Cats" 0)
  rw [offered] at same
  obtain rfl := (List.cons.inj (Outcome.ready.inj same)).2
  refine ⟨l, printed, suggestOutput l "Cats", loaded, found, counted, ?_, ?_, ?_, ?_⟩
  · have read : Invocation.parse ["search", "cat"] = .ok { command := .search "cat" 0 } := by decide +kernel
    rw [run_search read rfl loaded rfl parsed, output]
    rfl
  · rw [prints.linesOf_single parsed stickers selected]
    decide
  · have read : Invocation.parse ["suggest", "Cats"] = .ok { command := .suggest "Cats" } := by decide +kernel
    exact run_suggest read rfl loaded rfl
  · rw [choices.whole]
    decide

end StickerBook.CommandLine
