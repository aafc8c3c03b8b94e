import StickerBook.Proofs.Json.Object
import StickerBook.Proofs.Library.Parts
import StickerBook.Proofs.Tag.Display

/-!
# The tags of library files

Every tag that is read from a library file is proper, since the readers pass that on from the tag to the library, and
every proper tag can be read from a file: a library file can contain exactly the proper tags
(`Library.exists_file_carries_iff`).
-/

namespace StickerBook
set_option autoImplicit false
variable {t : Tag}

/-- All tags of the sticker are proper. -/
def Sticker.ProperTags (s : Sticker) : Prop := ∀ t ∈ s.tags, t.Proper

namespace LibraryFile

/-- All tags that have been read are proper. -/
def Draft.ProperTags (d : Draft) : Prop := ∀ tags ∈ d.tags, ∀ t ∈ tags, t.Proper

/-- All stickers that have been read have proper tags only. -/
def Contents.ProperTags (d : Contents) : Prop := ∀ stickers ∈ d.stickers, ∀ s ∈ stickers, s.ProperTags

theorem yields_tagReader : Json.Yields tagReader Tag.Proper :=
  .refine fun _ _ made => Tag.proper_of_parse (Tag.toOption_parse_iff.1 made)

theorem Draft.ProperTags.sticker {d : Draft} {s : Sticker} (proper : d.ProperTags) (made : d.sticker? = some s) :
    s.ProperTags := by
  obtain ⟨id, -, made⟩ := Option.bind_eq_some_iff.1 made
  obtain ⟨name, -, made⟩ := Option.bind_eq_some_iff.1 made
  obtain rfl := Option.some.inj made
  intro t there
  cases tags : d.tags with
  | none => simp [tags] at there
  | some ts => exact proper ts tags t (by simpa [tags] using there)

theorem yields_stickerReader : Json.Yields stickerReader Sticker.ProperTags := by
  refine .record (I := Draft.ProperTags) ?keeps (fun _ none => nomatch none) fun d s proper => proper.sticker
  case keeps =>
    have silent {α : Type} {name : String} {isSet : Draft → Bool} {read : Json.Reader α} {set : Draft → α → Draft}
        (same : ∀ d a, (set d a).tags = d.tags) (d : Draft) (holds : d.ProperTags) :
        Json.Yields ((Json.RecordField.of name isSet read set).read d) Draft.ProperTags := by
      refine Json.keeps_of_silent (fun d a => ?_) d holds
      unfold Draft.ProperTags
      rw [same]
    have tags (d : Draft) (holds : d.ProperTags) : Json.Yields (tagsField.read d) Draft.ProperTags := by
      refine Json.keeps_of yields_tagReader.list (fun d tags _ proper => ?_) d holds
      rintro _ ⟨⟩
      exact proper
    unfold Json.Keeps
    simp only [List.forall_mem_cons]
    exact ⟨silent fun _ _ => rfl, silent fun _ _ => rfl, silent fun _ _ => rfl, silent fun _ _ => rfl, tags,
      silent fun _ _ => rfl, silent fun _ _ => rfl, silent fun _ _ => rfl, silent fun _ _ => rfl,
      fun _ none => nomatch none⟩

theorem stickers_foldl_addSticker (l : Library) (stickers : List Sticker) :
    (stickers.foldl Library.addSticker l).stickers = l.stickers ++ stickers := by
  induction stickers generalizing l with
  | nil => exact (List.append_nil _).symm
  | cons s stickers ih =>
    rw [List.foldl_cons, ih, Library.addSticker, List.append_assoc]
    rfl

theorem stickers_ofContents (packages : List String) (stickers : List Sticker) :
    (Library.ofContents packages stickers).stickers = stickers := by
  rw [Library.ofContents, stickers_foldl_addSticker]
  exact List.nil_append stickers

theorem yields_libraryReader : Json.Yields libraryReader fun l => ∀ s ∈ l.stickers, s.ProperTags := by
  refine .record (I := Contents.ProperTags) ?keeps (fun _ none => nomatch none) ?made
  case keeps =>
    unfold Json.Keeps
    simp only [List.forall_mem_cons]
    refine ⟨Json.keeps_of_silent fun _ _ => Iff.rfl, ?_, fun _ none => nomatch none⟩
    refine Json.keeps_of yields_stickerReader.list fun d stickers _ proper => ?_
    rintro _ ⟨⟩
    exact proper
  case made =>
    intro d l proper made
    obtain rfl := Option.some.inj made
    rw [stickers_ofContents]
    cases stickers : d.stickers with
    | none => exact fun _ none => nomatch none
    | some ss => exact proper ss stickers

theorem tagReader_toJson (proper : t.Proper) (rest : List Char) : tagReader (t.toJson.toList ++ rest) = .ok (t, rest) :=
  Json.refine_eq_ok_iff.2 ⟨t.display, Json.string_quoted t.display rest,
    Tag.toOption_parse_iff.2 (Tag.parse_display_iff.2 proper)⟩

theorem tagsReader_toJson (proper : t.Proper) (rest : List Char) :
    Json.list tagReader ('[' :: (t.toJson.toList ++ ']' :: rest)) = .ok ([t], rest) := by
  have reads := tagReader_toJson proper (']' :: rest)
  unfold Tag.toJson at reads ⊢
  rw [Json.toList_quoted_append] at reads ⊢
  exact Json.list_single (by decide) (by decide) reads (by simp; omega)

/-- A sticker with one tag. -/
def bearer (t : Tag) : Sticker := { id := 0, name := "", tags := [t] }

/-- The text of a sticker with one tag. -/
def bearerText (t : Tag) : String := "\x7b\"id\":0,\"name\":\"\",\"tags\":[" ++ t.toJson ++ "]\x7d"

/-- The text of a library file with one sticker, which has one tag. -/
def bearerFile (t : Tag) : String := "\x7b\"stickers\":[" ++ bearerText t ++ "]\x7d"

/-- The members of the sticker one by one. -/
theorem toList_bearerText (t : Tag) (rest : List Char) : (bearerText t).toList ++ rest
    = '\x7b' :: ((Json.quoted "id").toList ++ ':' :: '0' :: ',' :: ((Json.quoted "name").toList ++ ':' ::
        ((Json.quoted "").toList ++ ',' :: ((Json.quoted "tags").toList ++ ':' :: '[' ::
          (t.toJson.toList ++ ']' :: '\x7d' :: rest))))) := by
  have opening : "\x7b\"id\":0,\"name\":\"\",\"tags\":[".toList = '\x7b' :: ((Json.quoted "id").toList ++ ':' ::
      '0' :: ',' :: ((Json.quoted "name").toList ++ ':' :: ((Json.quoted "").toList ++
        ',' :: ((Json.quoted "tags").toList ++ [':', '['])))) := rfl
  unfold bearerText
  rw [String.toList_append, String.toList_append, opening]
  simp

theorem stickerReader_bearerText (proper : t.Proper) (rest : List Char) :
    stickerReader ((bearerText t).toList ++ rest) = .ok (bearer t, rest) := by
  have id (rest : List Char) : idReader ('0' :: ',' :: rest) = .ok (0, ',' :: rest) := rfl
  rw [toList_bearerText]
  refine Json.record_object (d := { id := some 0, name := some "", tags := some [t] }) ?_ rfl
  rw [Json.members_first "id" rfl rfl (Json.read_of (id _)) (by simp),
    Json.members_next "name" rfl rfl (Json.read_of (Json.string_quoted "" _)) (by simp),
    Json.members_next "tags" rfl rfl (Json.read_of (tagsReader_toJson proper _)) (by simp; omega), Json.members_end]

theorem libraryReader_bearerFile (proper : t.Proper) :
    libraryReader (bearerFile t).toList = .ok (.ofContents [] [bearer t], []) := by
  have text : (bearerFile t).toList = '\x7b' :: ((Json.quoted "stickers").toList ++ ':' :: '[' ::
      ((bearerText t).toList ++ [']', '\x7d'])) := by
    have opening : "\x7b\"stickers\":[".toList = '\x7b' :: ((Json.quoted "stickers").toList ++ [':', '[']) := rfl
    unfold bearerFile
    rw [String.toList_append, String.toList_append, opening]
    simp
  have stickers : Json.list stickerReader ('[' :: ((bearerText t).toList ++ [']', '\x7d']))
      = .ok ([bearer t], ['\x7d']) := by
    have reads := stickerReader_bearerText proper [']', '\x7d']
    rw [toList_bearerText] at reads ⊢
    exact Json.list_single (by decide) (by decide) reads (by simp; omega)
  rw [text]
  refine Json.record_object (d := { stickers := some [bearer t] }) ?_ rfl
  rw [Json.members_first "stickers" rfl rfl (Json.read_of stickers) (by simp), Json.members_end]

end LibraryFile

namespace Library

/-- A library file can contain exactly the proper tags. -/
theorem exists_file_carries_iff : (∃ text l, ofJson text = .ok l ∧ l.Carries t) ↔ t.Proper := by
  constructor
  · rintro ⟨text, l, read, s, member, there⟩
    obtain ⟨rest, reads, -⟩ := Json.document_eq_ok_iff.1 read
    exact LibraryFile.yields_libraryReader reads s member t there
  · intro proper
    have read := LibraryFile.libraryReader_bearerFile proper
    refine ⟨LibraryFile.bearerFile t, _, Json.document_eq_ok_iff.2 ⟨[], read, rfl⟩, LibraryFile.bearer t, ?_, ?_⟩
    · rw [LibraryFile.stickers_ofContents]
      exact List.mem_singleton_self _
    · exact List.mem_singleton_self t

end Library

end StickerBook
