import StickerBook.Library.File
import StickerBook.Proofs.Json.Yields

/-!
# Libraries that can arise

A library is read from a file, or starts empty, and gets a page size, packages and stickers (`Library.Built`). So it holds
what was put into it (`Library.Built.exists_builtBy`), and always the default package (`Library.Built.default_mem`), also
when its file does not name it.
-/

namespace StickerBook
set_option autoImplicit false

/-- What can be put into a library. -/
inductive Addition where
  | package (name : String)
  | sticker (s : Sticker)
deriving DecidableEq

namespace Addition

/-- The package that an addition names. -/
def packageName : Addition → String
  | .package name => name
  | .sticker s => s.package

/-- The sticker that an addition brings. -/
def sticker? : Addition → Option Sticker
  | .package _ => none
  | .sticker s => some s

end Addition

namespace Library
variable {l : Library} {additions : List Addition}

/-- A library that can arise. -/
inductive Built : Library → Prop
  | empty : Built .empty
  | read {text : String} {l : Library} : ofJson text = .ok l → Built l
  | withPageSize {l : Library} (pageSize : Nat) : Built l → Built (l.withPageSize pageSize)
  | addPackage {l : Library} (name : String) : Built l → Built (l.addPackage name)
  | addSticker {l : Library} (s : Sticker) : Built l → Built (l.addSticker s)

/-- A library file holds packages and stickers. -/
theorem exists_contents_of_ofJson {text : String} (read : ofJson text = .ok l) :
    ∃ packages stickers, l = ofContents packages stickers := by
  obtain ⟨rest, reads, -⟩ := Json.document_eq_ok_iff.1 read
  have made : Json.Yields LibraryFile.libraryReader fun l => ∃ packages stickers, l = ofContents packages stickers :=
    .record (I := fun _ => True) (fun _ _ _ _ _ _ _ _ => trivial) trivial
      fun d l _ finished => ⟨_, _, (Option.some.inj finished).symm⟩
  exact made reads

/-- A library that started empty and was given the additions one after the other, and page sizes in between. -/
inductive BuiltBy : List Addition → Library → Prop
  | empty : BuiltBy [] .empty
  | withPageSize {additions : List Addition} {l : Library} (pageSize : Nat) :
    BuiltBy additions l → BuiltBy additions (l.withPageSize pageSize)
  | addPackage {additions : List Addition} {l : Library} (name : String) :
    BuiltBy additions l → BuiltBy (additions ++ [.package name]) (l.addPackage name)
  | addSticker {additions : List Addition} {l : Library} (s : Sticker) :
    BuiltBy additions l → BuiltBy (additions ++ [.sticker s]) (l.addSticker s)

/-- A library has the stickers that it was given. -/
theorem BuiltBy.stickers_eq (built : BuiltBy additions l) : l.stickers = additions.filterMap Addition.sticker? := by
  induction built with
  | empty => rfl
  | withPageSize pageSize _ ih => exact ih
  | addPackage name _ ih =>
    rw [List.filterMap_append, ← ih]
    exact (List.append_nil _).symm
  | addSticker s _ ih =>
    rw [List.filterMap_append, ← ih]
    rfl

/-- A library has the packages that it was given, and the default package. -/
theorem BuiltBy.mem_packages_iff (built : BuiltBy additions l) {name : String} :
    name ∈ l.packages.names ↔ name = defaultPackage ∨ ∃ a ∈ additions, a.packageName = name := by
  have put {additions : List Addition} {names : NameSet} (a : Addition)
      (ih : name ∈ names.names ↔ name = defaultPackage ∨ ∃ a ∈ additions, a.packageName = name) :
      name ∈ (names.insert a.packageName).names
        ↔ name = defaultPackage ∨ ∃ b ∈ additions ++ [a], b.packageName = name := by
    rw [NameSet.mem_insert, ih]
    simp only [List.mem_append, List.mem_singleton, or_and_right, exists_or, exists_eq_left]
    rw [or_left_comm, or_comm (a := name = a.packageName), eq_comm (a := name) (b := a.packageName)]
  induction built with
  | empty => simp [Library.empty, NameSet.singleton]
  | withPageSize pageSize _ ih => exact ih
  | addPackage name' _ ih => exact put (.package name') ih
  | addSticker s _ ih => exact put (.sticker s) ih

/-- A library with one thing more. -/
def add (l : Library) : Addition → Library
  | .package name => l.addPackage name
  | .sticker s => l.addSticker s

/-- Additions made one after the other are what a library is built by. -/
theorem BuiltBy.foldl_add (built : BuiltBy additions l) (more : List Addition) :
    BuiltBy (additions ++ more) (more.foldl add l) := by
  induction more generalizing additions l with
  | nil =>
    rw [List.append_nil]
    exact built
  | cons a rest ih =>
    have one : BuiltBy (additions ++ [a]) (l.add a) := by
      cases a with
      | package name => exact built.addPackage name
      | sticker s => exact built.addSticker s
    have behind := ih one
    rw [List.append_assoc] at behind
    exact behind

theorem foldl_addPackage (l : Library) (names : List String) :
    names.foldl addPackage l = { l with packages := l.packages.insertAll names } := by
  induction names generalizing l with
  | nil => rfl
  | cons name rest ih => exact ih (l.addPackage name)

/-- A library file puts its packages into an empty library, then its stickers. -/
theorem builtBy_ofContents (packages : List String) (stickers : List Sticker) :
    BuiltBy (packages.map .package ++ stickers.map .sticker) (ofContents packages stickers) := by
  have built := BuiltBy.empty.foldl_add (packages.map .package ++ stickers.map .sticker)
  rw [List.nil_append, List.foldl_append, List.foldl_map, List.foldl_map] at built
  have packed : packages.foldl (fun l name => l.add (.package name)) empty
      = { empty with packages := empty.packages.insertAll packages } := foldl_addPackage empty packages
  rw [packed] at built
  exact built

/-- Every library that can arise is built by additions. -/
theorem Built.exists_builtBy (built : l.Built) : ∃ additions, BuiltBy additions l := by
  induction built with
  | empty => exact ⟨_, .empty⟩
  | read file =>
    obtain ⟨packages, stickers, rfl⟩ := exists_contents_of_ofJson file
    exact ⟨_, builtBy_ofContents packages stickers⟩
  | withPageSize pageSize _ ih =>
    obtain ⟨additions, built⟩ := ih
    exact ⟨_, built.withPageSize pageSize⟩
  | addPackage name _ ih =>
    obtain ⟨additions, built⟩ := ih
    exact ⟨_, built.addPackage name⟩
  | addSticker s _ ih =>
    obtain ⟨additions, built⟩ := ih
    exact ⟨_, built.addSticker s⟩

/-- The default package is always there. -/
theorem Built.default_mem (built : l.Built) : defaultPackage ∈ l.packages.names := by
  obtain ⟨additions, given⟩ := built.exists_builtBy
  exact given.mem_packages_iff.2 (.inl rfl)

end Library

end StickerBook
