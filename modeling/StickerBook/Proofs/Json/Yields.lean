import StickerBook.Json.Record
import StickerBook.Proofs.Except

/-!
# What readers yield

What holds of everything that a reader yields is passed on by the readers that are built from it. A list holds
elements with the property (`Yields.list`). A record is read field by field, in any order and number, so that an
invariant of the partial record which every field keeps holds at its end (`Yields.record`).
-/

namespace StickerBook.Json
set_option autoImplicit false
variable {α β δ : Type}

/-- A text is read if it holds one value and nothing behind it but gaps. -/
theorem document_eq_ok_iff {read : Reader α} {text : String} {a : α} :
    document read text = .ok a ↔ ∃ rest, read text.toList = .ok (a, rest) ∧ skipGaps rest = [] := by
  unfold document
  split
  · next defect refused => simp [refused]
  · next b rest result =>
    simp only [result, Except.ok.injEq, Prod.mk.injEq, List.isEmpty_iff]
    constructor
    · intro done
      split at done
      · next last => exact ⟨rest, ⟨Except.ok.inj done, rfl⟩, last⟩
      · cases done
    · rintro ⟨_, ⟨rfl, rfl⟩, last⟩
      exact if_pos last

theorem refine_eq_ok_iff {read : Reader α} {f : α → Option β} {cs rest : List Char} {b : β} :
    refine read f cs = .ok (b, rest) ↔ ∃ a, read cs = .ok (a, rest) ∧ f a = some b := by
  unfold refine
  split
  · next defect refused => simp [refused]
  · next a more result =>
    simp only [result, Except.ok.injEq, Prod.mk.injEq]
    constructor
    · intro done
      split at done
      · next made =>
        obtain ⟨rfl, rfl⟩ := Prod.mk.inj (Except.ok.inj done)
        exact ⟨a, ⟨rfl, rfl⟩, made⟩
      · cases done
    · rintro ⟨_, ⟨rfl, rfl⟩, made⟩
      rw [made]

/-- Whatever is read has the property. -/
def Yields (read : Reader α) (P : α → Prop) : Prop := ∀ ⦃cs a rest⦄, read cs = .ok (a, rest) → P a

variable {read : Reader α} {P : α → Prop} {Q : β → Prop}

theorem Yields.refine {f : α → Option β} (makes : ∀ a b, f a = some b → Q b) : Yields (refine read f) Q := by
  intro cs b rest done
  obtain ⟨a, -, made⟩ := refine_eq_ok_iff.1 done
  exact makes a b made

/-- The mark that closes a value does not change it. -/
theorem exists_of_closed {x : Except Defect (α × List Char)} {close : List Char → Except Defect (List Char)} {a : α}
    {rest : List Char} (done : (x.bind fun (a, rest) => (close rest).map (a, ·)) = .ok (a, rest)) :
    ∃ rest', x = .ok (a, rest') := by
  obtain ⟨⟨b, rest'⟩, inner, closed⟩ := exists_of_bind_eq_ok done
  obtain ⟨_, -, same⟩ := exists_of_map_eq_ok closed
  obtain ⟨rfl, -⟩ := Prod.mk.inj same
  exact ⟨rest', inner⟩

/-- The property of the elements that are read one after the other. -/
theorem forall_mem_of_elements (yields : Yields read P) {first : Bool} {cs rest : List Char} {as : List α}
    (done : elements read first cs = .ok (as, rest)) : ∀ a ∈ as, P a := by
  fun_induction elements read first cs generalizing as rest with
  | case1 => cases done
  | case2 =>
    obtain ⟨_, -, same⟩ := exists_of_map_eq_ok done
    obtain ⟨rfl, -⟩ := Prod.mk.inj same
    exact fun _ none => nomatch none
  | case3 => cases done
  | case4 first cs behind _ a rest' reads _ ih =>
    obtain ⟨⟨more, _⟩, later, same⟩ := exists_of_map_eq_ok done
    obtain ⟨rfl, -⟩ := Prod.mk.inj same
    exact List.forall_mem_cons.2 ⟨yields reads, ih later⟩
  | case5 => cases done

theorem Yields.list (yields : Yields read P) : Yields (list read) (fun as => ∀ a ∈ as, P a) := by
  intro cs as rest done
  unfold Json.list onFirst at done
  split at done
  · cases done
  · dsimp only at done
    split at done
    · exact forall_mem_of_elements yields done
    · cases done

/-- Every field keeps the invariant of the partial record. -/
def Keeps (fields : List (RecordField δ)) (I : δ → Prop) : Prop := ∀ f ∈ fields, ∀ d, I d → Yields (f.read d) I

/-- A field keeps what its value does not break. -/
theorem keeps_of {I : δ → Prop} {name : String} {isSet : δ → Bool} {set : δ → α → δ} (yields : Yields read P)
    (kept : ∀ d a, I d → P a → I (set d a)) (d : δ) (holds : I d) :
    Yields ((RecordField.of name isSet read set).read d) I := by
  intro cs d' rest done
  obtain ⟨⟨a, _⟩, reads, same⟩ := exists_of_map_eq_ok done
  obtain ⟨rfl, -⟩ := Prod.mk.inj same
  exact kept d a holds (yields reads)

/-- A field that the invariant does not speak about keeps it. -/
theorem keeps_of_silent {I : δ → Prop} {name : String} {isSet : δ → Bool} {set : δ → α → δ}
    (silent : ∀ d a, I (set d a) ↔ I d) (d : δ) (holds : I d) :
    Yields ((RecordField.of name isSet read set).read d) I :=
  keeps_of (P := fun _ => True) (fun _ _ _ _ => trivial) (fun d a holds _ => (silent d a).2 holds) d holds

section
variable {fields : List (RecordField δ)} {I : δ → Prop} (keeps : Keeps fields I)
include keeps

theorem yields_positional {first : Bool} {d : δ} (holds : I d) : Yields (positional first fields d) I := by
  intro cs d' rest done
  induction fields generalizing first d cs with
  | nil =>
    obtain ⟨rfl, -⟩ := Prod.mk.inj (Except.ok.inj done)
    exact holds
  | cons f fields ih =>
    rw [positional] at done
    split at done
    · cases done
    · obtain ⟨rfl, -⟩ := Prod.mk.inj (Except.ok.inj done)
      exact holds
    · split at done
      · cases done
      · next d'' rest' reads =>
        exact ih (fun g member => keeps g (List.mem_cons_of_mem _ member))
          (keeps f List.mem_cons_self d holds reads) done

theorem yields_member {d : δ} {key : List Char} (holds : I d) : Yields (member fields d key) I := by
  intro cs d' rest done
  unfold member at done
  split at done
  · next f found =>
    split at done
    · cases done
    · obtain ⟨behind, -, reads⟩ := exists_of_bind_eq_ok done
      exact keeps f (List.mem_of_find?_eq_some found) d holds reads
  · -- the member is not a field, and the record stays as it is
    obtain ⟨behind, -, skipped⟩ := exists_of_bind_eq_ok done
    obtain ⟨_, -, same⟩ := exists_of_map_eq_ok skipped
    obtain ⟨rfl, -⟩ := Prod.mk.inj same
    exact holds

theorem yields_members {first : Bool} {d : δ} (holds : I d) : Yields (members fields first d) I := by
  intro cs d' rest done
  fun_induction members fields first d cs with
  | case1 => cases done
  | case2 =>
    obtain ⟨rfl, -⟩ := Prod.mk.inj (Except.ok.inj done)
    exact holds
  | case3 => cases done
  | case4 => cases done
  | case5 first d cs _ _ key behind _ d'' rest' reads _ ih => exact ih (yields_member keeps holds reads) done
  | case6 => cases done

/-- A record has what follows from the invariant of its fields. -/
theorem Yields.record {empty : δ} {finish : δ → Option α} (start : I empty)
    (makes : ∀ d a, I d → finish d = some a → P a) : Yields (record fields empty finish) P := by
  intro cs a rest done
  unfold Json.record onFirst at done
  split at done
  · cases done
  · dsimp only at done
    split at done
    · obtain ⟨rest', inner⟩ := exists_of_closed done
      obtain ⟨d, reads, made⟩ := refine_eq_ok_iff.1 inner
      exact makes d a (yields_positional keeps start reads) made
    · split at done
      · obtain ⟨rest', inner⟩ := exists_of_closed done
        obtain ⟨d, reads, made⟩ := refine_eq_ok_iff.1 inner
        exact makes d a (yields_members keeps start reads) made
      · cases done

end

end StickerBook.Json
