/-!
# Results from results

A computation in steps has a result only if its steps have one.
-/

namespace StickerBook
set_option autoImplicit false
variable {ε ε' α β : Type}

/-- A changed result comes from a result. -/
theorem exists_of_map_eq_ok {x : Except ε α} {f : α → β} {b : β} (read : x.map f = .ok b) :
    ∃ a, x = .ok a ∧ f a = b := by
  cases x with
  | error e => cases read
  | ok a => exact ⟨a, rfl, Except.ok.inj read⟩

/-- A changed result that is an error was one before. -/
theorem error_of_map {x : Except ε α} {f : α → β} {e : ε} (refused : x.map f = .error e) : x = .error e := by
  cases x with
  | error e' => exact congrArg Except.error (Except.error.inj refused)
  | ok a => cases refused

/-- The result of a second step comes from a result of the first. -/
theorem exists_of_bind_eq_ok {x : Except ε α} {f : α → Except ε β} {b : β} (read : x.bind f = .ok b) :
    ∃ a, x = .ok a ∧ f a = .ok b := by
  cases x with
  | error e => cases read
  | ok a => exact ⟨a, rfl, read⟩

/-- A change of the result and a change of the error leave each other alone. -/
theorem map_mapError (x : Except ε α) (f : α → β) (g : ε → ε') : (x.mapError g).map f = (x.map f).mapError g := by
  cases x <;> rfl

theorem map_nil_append (x : Except ε (List α)) : x.map ([] ++ ·) = x := by
  cases x <;> rfl

/-- Two lists put before a result one after the other stand before it as one. -/
theorem map_append_append (x : Except ε (List α)) (first second : List α) :
    (x.map (second ++ ·)).map (first ++ ·) = x.map (first ++ second ++ ·) := by
  cases x with
  | error e => rfl
  | ok as => exact congrArg Except.ok (List.append_assoc first second as).symm

end StickerBook
