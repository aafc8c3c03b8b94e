import Mathlib.Algebra.Ring.Int.Defs
import StickerBook.Proofs.Editor.Highlight

/-!
# How far the highlight moves

A move that would leave the list ends at its other end, however far beyond it would lead. Steps of one therefore go round as
if the candidates stood in a circle, and any number of them adds up. A longer move goes round only where it would lead just
past an end, or there after full rounds (`wraps_run`).
-/

namespace StickerBook.Editor.Combobox
set_option autoImplicit false
variable {α : Type} {b : Combobox α}

/-- The place that a move starts from. Without a highlight it is the first one. -/
def place (b : Combobox α) : Nat := b.highlighted.getD 0

/-- Where a move would lead if the candidates stood in a circle. -/
def around (b : Combobox α) (delta : Int) : Nat := ((b.place + delta) % b.candidates.length).toNat

/-- The move stays within the list. -/
def Inside (b : Combobox α) (delta : Int) : Prop := 0 ≤ b.place + delta ∧ b.place + delta < b.candidates.length

/-- Where moves of the highlight lead. -/
structure Wraps (b : Combobox α) : Prop where
  inside : ∀ delta : Int, b.Inside delta → (b.moveHighlight delta).highlighted = some (b.place + delta).toNat
  before : ∀ delta : Int, b.place + delta < 0 → (b.moveHighlight delta).highlighted = some (b.candidates.length - 1)
  beyond : ∀ delta : Int, b.candidates.length ≤ b.place + delta → (b.moveHighlight delta).highlighted = some 0
  /-- A move leads where it would lead on a circle exactly if it stays within the list, or would lead to the last place
  before it or the first one behind it, if not for full rounds. -/
  around_iff : ∀ delta : Int, (b.moveHighlight delta).highlighted = some (b.around delta) ↔
    b.Inside delta ∨
      (b.place + delta < 0 ∧ (b.candidates.length : Int) ∣ b.place + delta + 1) ∨
      (b.candidates.length ≤ b.place + delta ∧ (b.candidates.length : Int) ∣ b.place + delta)
  /-- Steps of one go round, and add up. -/
  steps : ∀ steps : List Int, (∀ d ∈ steps, -1 ≤ d ∧ d ≤ 1) → (steps.foldl moveHighlight b).place = b.around steps.sum
  /-- Two moves join into one exactly if the first stays within the list, or the second one, from the end that the first one
  stopped at, happens to lead where the joint one leads. -/
  joins_iff : ∀ d d' : Int, (b.moveHighlight d).moveHighlight d' = b.moveHighlight (d + d') ↔
    b.Inside d ∨ d' = 0 ∨ b.candidates.length = 1 ∨
      (b.place + d < 0 ∧
        (d' ≤ -b.candidates.length ∨ b.place + d + d' = 0 ∨ b.candidates.length ≤ b.place + d + d')) ∨
      (b.candidates.length ≤ b.place + d ∧
        (b.candidates.length ≤ d' ∨ b.place + d + d' = b.candidates.length - 1 ∨ b.place + d + d' < 0))
  /-- A move is undone by its opposite exactly if it stays within the list, or leaves it from the end that it leads past. -/
  undone_iff : ∀ delta : Int, ((b.moveHighlight delta).moveHighlight (-delta)).highlighted = some b.place ↔
    b.Inside delta ∨ (b.place + delta < 0 ∧ b.place = 0) ∨
      (b.candidates.length ≤ b.place + delta ∧ b.place + 1 = b.candidates.length)

/-- Where a move ends that would lead to a place, of as many as there are. -/
def landing (total : Nat) (x : Int) : Nat := if x < 0 then total - 1 else if x ≥ total then 0 else x.toNat

theorem moveHighlight_eq (some_candidate : b.candidates ≠ []) (delta : Int) :
    b.moveHighlight delta = { b with highlighted := some (landing b.candidates.length (b.place + delta)) } := by
  unfold moveHighlight
  dsimp only
  rw [if_neg (mt List.length_eq_zero_iff.1 some_candidate)]
  rfl

theorem landing_inside {total : Nat} {x : Int} (low : 0 ≤ x) (high : x < total) : landing total x = x.toNat := by
  unfold landing
  rw [if_neg (Int.not_lt.2 low), if_neg (Int.not_le.2 high)]

theorem landing_before {total : Nat} {x : Int} (low : x < 0) : landing total x = total - 1 := by
  unfold landing
  rw [if_pos low]

theorem landing_beyond {total : Nat} {x : Int} (high : total ≤ x) : landing total x = 0 := by
  unfold landing
  rw [if_neg (by omega), if_pos high]

/-- The remainder is the largest one exactly if the next number is divisible. -/
theorem emod_eq_pred_iff {total : Nat} (some_place : 0 < total) (x : Int) :
    x % total = total - 1 ↔ (total : Int) ∣ x + 1 := by
  have low : 0 ≤ x % total := Int.emod_nonneg x (by omega)
  have high : x % total < total := Int.emod_lt_of_pos x (by omega)
  rw [Int.dvd_iff_emod_eq_zero, ← Int.emod_add_emod x total 1]
  by_cases last : x % total + 1 = total
  · rw [last, Int.emod_self]
    omega
  · have next : (x % total + 1) % total = x % total + 1 := Int.emod_eq_of_lt (by omega) (by omega)
    rw [next]
    omega

/-- A move goes round exactly if it stays within the list or would lead just past an end of it, if not for full rounds. -/
theorem landing_eq_emod_iff {total : Nat} (some_place : 0 < total) (x : Int) :
    landing total x = (x % total).toNat ↔
      (0 ≤ x ∧ x < total) ∨ (x < 0 ∧ (total : Int) ∣ x + 1) ∨ (total ≤ x ∧ (total : Int) ∣ x) := by
  have low : 0 ≤ x % total := Int.emod_nonneg x (by omega)
  have high : x % total < total := Int.emod_lt_of_pos x (by omega)
  by_cases before : x < 0
  · rw [landing_before before, ← emod_eq_pred_iff some_place]
    omega
  · by_cases beyond : (total : Int) ≤ x
    · rw [landing_beyond beyond, Int.dvd_iff_emod_eq_zero]
      omega
    · have inside : 0 ≤ x ∧ x < total := by omega
      rw [landing_inside inside.1 inside.2, Int.emod_eq_of_lt inside.1 inside.2]
      exact iff_of_true rfl (.inl inside)

theorem landing_lt {total : Nat} (some_place : 0 < total) (x : Int) : landing total x < total := by
  unfold landing
  split
  · omega
  · split <;> omega

/-- A step of one goes round. -/
theorem landing_step {total place : Nat} (here : place < total) {delta : Int} (single : -1 ≤ delta ∧ delta ≤ 1) :
    (landing total (place + delta) : Int) = (place + delta) % total := by
  have round : landing total (place + delta) = ((place + delta : Int) % total).toNat := by
    rw [landing_eq_emod_iff (by omega)]
    by_cases before : (place + delta : Int) < 0
    · have last : (place + delta + 1 : Int) = 0 := by omega
      exact .inr (.inl ⟨before, last ▸ Int.dvd_zero _⟩)
    · by_cases beyond : (total : Int) ≤ place + delta
      · have first : (place + delta : Int) = total := by omega
        exact .inr (.inr ⟨beyond, first ▸ Int.dvd_refl _⟩)
      · exact .inl ⟨by omega, by omega⟩
  rw [round]
  exact Int.toNat_of_nonneg (Int.emod_nonneg _ (by omega))

theorem landing_joins_iff {total place : Nat} (here : place < total) (d d' : Int) :
    landing total (landing total (place + d) + d') = landing total (place + (d + d')) ↔
      (0 ≤ place + d ∧ place + d < total) ∨ d' = 0 ∨ total = 1 ∨
        (place + d < 0 ∧ (d' ≤ -total ∨ place + d + d' = 0 ∨ total ≤ place + d + d')) ∨
        (total ≤ place + d ∧ (total ≤ d' ∨ place + d + d' = total - 1 ∨ place + d + d' < 0)) := by
  unfold landing
  split_ifs <;> omega

/-- Steps of one add up. -/
theorem place_foldl (steps : List Int) (single : ∀ d ∈ steps, -1 ≤ d ∧ d ≤ 1) (here : b.place < b.candidates.length) :
    ((steps.foldl moveHighlight b).place : Int) = (b.place + steps.sum) % b.candidates.length := by
  induction steps generalizing b with
  | nil =>
    rw [List.sum_nil, Int.add_zero, Int.emod_eq_of_lt (by omega) (by omega)]
    rfl
  | cons d rest ih =>
    obtain ⟨first, later⟩ := List.forall_mem_cons.1 single
    have some_candidate : b.candidates ≠ [] := List.ne_nil_of_length_pos (by omega)
    rw [List.foldl_cons, List.sum_cons, moveHighlight_eq some_candidate]
    have moved := ih (b := { b with highlighted := some (landing b.candidates.length (b.place + d)) }) later
      (landing_lt (by omega) _)
    rw [moved]
    show ((landing b.candidates.length (b.place + d) : Int) + rest.sum) % b.candidates.length = _
    rw [landing_step here first, Int.emod_add_emod, Int.add_assoc]

theorem InRange.place_lt (range : b.InRange) (some_candidate : b.candidates ≠ []) : b.place < b.candidates.length := by
  unfold place
  cases highlighted : b.highlighted with
  | none => exact List.length_pos_iff.2 some_candidate
  | some i => exact range.within i highlighted

theorem InRange.wraps (range : b.InRange) (some_candidate : b.candidates ≠ []) : b.Wraps := by
  have here := range.place_lt some_candidate
  have moved (delta : Int) := moveHighlight_eq some_candidate delta
  have joined (d d' : Int) : (b.moveHighlight d).moveHighlight d' = { b with
      highlighted := some (landing b.candidates.length (landing b.candidates.length (b.place + d) + d')) } := by
    rw [moved]
    exact moveHighlight_eq (b := { b with highlighted := some (landing b.candidates.length (b.place + d)) })
      some_candidate d'
  constructor
  case inside =>
    intro delta inside
    rw [moved, landing_inside inside.1 inside.2]
  case before =>
    intro delta before
    rw [moved, landing_before before]
  case beyond =>
    intro delta beyond
    rw [moved, landing_beyond beyond]
  case around_iff =>
    intro delta
    rw [moved, Option.some_inj]
    exact landing_eq_emod_iff (by omega) _
  case steps =>
    intro steps single
    have sum := b.place_foldl steps single here
    unfold around
    omega
  case joins_iff =>
    intro d d'
    have same (i j : Nat) : ({ b with highlighted := some i } : Combobox α) = { b with highlighted := some j } ↔ i = j :=
      ⟨fun equal => Option.some.inj (congrArg highlighted equal), fun equal => by rw [equal]⟩
    rw [joined, moved, same]
    exact landing_joins_iff here d d'
  case undone_iff =>
    intro delta
    rw [joined, Option.some_inj]
    have home : landing b.candidates.length (b.place + (delta + -delta)) = b.place := by
      rw [Int.add_right_neg, Int.add_zero]
      exact landing_inside (Int.natCast_nonneg _) (Int.ofNat_lt.2 here)
    have joins := landing_joins_iff here delta (-delta)
    rw [home] at joins
    rw [joins]
    unfold Inside
    omega

namespace Run
variable [Choosable α] [DecidableEq α]

/-- **Steps of one wrap around the list, and longer moves stop at its ends**, after every run of a combobox that leaves
candidates on show. -/
theorem wraps_run (default : α) (key : α → String) (events : List (Event α))
    (some_candidate : (ofEvents default key events).box.candidates ≠ []) : (ofEvents default key events).box.Wraps := by
  have range : (ofEvents default key events).box.InRange := inRange_foldl (.of_closed rfl rfl) events
  exact range.wraps some_candidate

/-- Three fruits are on show, and the highlight went round once and on to the second. -/
theorem wraps_run_fruit :
    let events : List (Event String) :=
      [.act .openList, .answer 0 (.ok [.plain "apple", .plain "apricot", .plain "banana"]), .settle] ++
        .replicate 4 (.act (.moveHighlight 1))
    let box := (ofEvents "apple" id events).box
    box.candidates ≠ [] ∧ box.place = 1 ∧ box.Wraps := by
  intro events box
  have some_candidate : box.candidates ≠ [] := by decide
  exact ⟨some_candidate, by decide, wraps_run "apple" id events some_candidate⟩

/-- From the first of three candidates, two steps back lead to the second, and a single move as far back to the third. The
move is not undone by its opposite either. -/
theorem long_move_stops_at_end :
    let events : List (Event String) :=
      [.act .openList, .answer 0 (.ok [.plain "apple", .plain "apricot", .plain "banana"]), .settle]
    let box := (ofEvents "apple" id events).box
    box.candidates.length = 3 ∧ box.place = 0 ∧ box.around (-2) = 1 ∧ (box.moveHighlight (-2)).highlighted = some 2 ∧
      ((box.moveHighlight (-1)).moveHighlight (-1)).highlighted = some 1 ∧
      ((box.moveHighlight 4).moveHighlight (-4)).highlighted = some 2 := by
  decide

end Run

end StickerBook.Editor.Combobox
