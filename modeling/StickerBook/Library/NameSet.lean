/-!
# Sorted sets of names

A `NameSet` is a list of names in increasing code point order, each name once.
-/

namespace StickerBook
set_option autoImplicit false

/-- Puts a name into its place in an increasing list, unless it is there. -/
def insertName (name : String) : List String → List String
  | [] => [name]
  | other :: rest =>
    if name < other then name :: other :: rest
    else if name = other then other :: rest
    else other :: insertName name rest

theorem mem_insertName {name x : String} {names : List String} :
    x ∈ insertName name names ↔ x = name ∨ x ∈ names := by
  induction names with
  | nil => simp [insertName]
  | cons other rest ih =>
    simp only [insertName]
    split
    · simp
    · split
      · next h => subst h; simp
      · simp [ih]; grind

theorem pairwise_insertName {name : String} {names : List String} (h : names.Pairwise (· < ·)) :
    (insertName name names).Pairwise (· < ·) := by
  induction names with
  | nil => simp [insertName]
  | cons other rest ih =>
    obtain ⟨hall, hrest⟩ := List.pairwise_cons.1 h
    simp only [insertName]
    split
    · next hlt =>
      refine List.pairwise_cons.2 ⟨fun x hx => ?_, h⟩
      rcases List.mem_cons.1 hx with rfl | hx
      · exact hlt
      · exact String.lt_trans hlt (hall x hx)
    · split
      · exact h
      · next hge hne =>
        refine List.pairwise_cons.2 ⟨fun x hx => ?_, ih hrest⟩
        rcases mem_insertName.1 hx with rfl | hx
        · exact Std.lt_of_le_of_ne (String.not_lt.1 hge) (Ne.symm hne)
        · exact hall x hx

/-- A set of names, listed in increasing order. -/
structure NameSet where
  names : List String
  increasing : names.Pairwise (· < ·)

namespace NameSet

/-- The set of one name. -/
def singleton (name : String) : NameSet := ⟨[name], by simp⟩

/-- The set with a further name. -/
def insert (s : NameSet) (name : String) : NameSet :=
  ⟨insertName name s.names, pairwise_insertName s.increasing⟩

/-- The set with all the given names. -/
def insertAll (s : NameSet) (names : List String) : NameSet := names.foldl insert s

theorem mem_insert {s : NameSet} {name x : String} :
    x ∈ (s.insert name).names ↔ x = name ∨ x ∈ s.names := mem_insertName

end NameSet

end StickerBook
