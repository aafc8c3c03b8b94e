import StickerBook.Proofs.Json.Quoted
import StickerBook.Proofs.Json.Yields

/-!
# Reading what is written as an object

A member whose key names a field is read by that field (`members_first`, `members_next`), and the object is read when
its members have been (`record_object`). A list of one element is read by reading the element (`list_single`).
-/

namespace StickerBook.Json
set_option autoImplicit false
variable {α δ : Type} {cs rest : List Char}

section
variable {fields : List (RecordField δ)} {f : RecordField δ} {d d' : δ}

theorem read_of {read : Reader α} {name : String} {isSet : δ → Bool} {set : δ → α → δ} {a : α}
    (reads : read cs = .ok (a, rest)) :
    (RecordField.of name isSet read set).read d cs = .ok (set d a, rest) := by
  unfold RecordField.of
  dsimp only
  rw [reads]
  rfl

/-- The key of a field that is not set yet hands the value behind it to that field. -/
theorem members_field {first : Bool} {key : String} {whole : List Char}
    (opened : nextKey first whole = .ok (some (key.toList.flatMap spelled ++ '"' :: ':' :: cs)))
    (found : fields.find? (fun f => f.name.toList = key.toList) = some f) (unset : f.isSet d = false)
    (reads : f.read d cs = .ok (d', rest)) (shorter : rest.length < whole.length) :
    members fields first d whole = members fields false d' rest := by
  have value : member fields d key.toList (':' :: cs) = .ok (d', rest) := by
    unfold member
    rw [found]
    dsimp only
    rw [if_neg (Bool.eq_false_iff.1 unset)]
    exact reads
  rw [members, opened]
  dsimp only
  rw [stringBody_flatMap_spelled]
  dsimp only
  rw [List.reverse_nil, List.nil_append, value]
  dsimp only
  rw [if_pos shorter]

theorem members_first (key : String) (found : fields.find? (fun f => f.name.toList = key.toList) = some f)
    (unset : f.isSet d = false) (reads : f.read d cs = .ok (d', rest)) (shorter : rest.length ≤ cs.length) :
    members fields true d ((quoted key).toList ++ ':' :: cs) = members fields false d' rest := by
  rw [toList_quoted_append]
  exact members_field rfl found unset reads (by simp; omega)

theorem members_next (key : String) (found : fields.find? (fun f => f.name.toList = key.toList) = some f)
    (unset : f.isSet d = false) (reads : f.read d cs = .ok (d', rest)) (shorter : rest.length ≤ cs.length) :
    members fields false d (',' :: ((quoted key).toList ++ ':' :: cs)) = members fields false d' rest := by
  rw [toList_quoted_append]
  exact members_field rfl found unset reads (by simp; omega)

theorem members_end (first : Bool) : members fields first d ('\x7d' :: rest) = .ok (d, '\x7d' :: rest) := by
  rw [members]
  rfl

theorem record_object {empty : δ} {finish : δ → Option α} {a : α}
    (reads : members fields true empty cs = .ok (d, '\x7d' :: rest)) (made : finish d = some a) :
    record fields empty finish ('\x7b' :: cs) = .ok (a, rest) := by
  have whole : refine (members fields true empty) finish cs = .ok (a, '\x7d' :: rest) :=
    refine_eq_ok_iff.2 ⟨d, reads, made⟩
  unfold record
  rw [onFirst_cons _ (by decide), if_neg (by decide), if_pos rfl, whole]
  rfl

end

/-- A list of one element is read by reading the element up to the bracket. -/
theorem list_single {read : Reader α} {a : α} {c : Char} (filled : isGap c = false) (element : c ≠ ']')
    (reads : read (c :: cs) = .ok (a, ']' :: rest)) (shorter : rest.length < cs.length) :
    list read ('[' :: c :: cs) = .ok ([a], rest) := by
  have next : nextElement true (c :: cs) = .ok (some (c :: cs)) := by
    unfold nextElement
    rw [skipGaps_cons filled]
    simp [element]
  have last : elements read false (']' :: rest) = .ok ([], rest) := by
    rw [elements]
    rfl
  have one : elements read true (c :: cs) = .ok ([a], rest) := by
    rw [elements, next]
    dsimp only
    rw [reads]
    dsimp only
    rw [if_pos (by simpa using shorter), last]
    rfl
  unfold list
  rw [onFirst_cons _ (by decide), if_pos rfl, one]

end StickerBook.Json
