import StickerBook.Sql.Literal
import StickerBook.Text.Numeral

/-!
# Reading back a statement text

A list of pieces is `Separated` if its fixed texts are free of quotes and no two of its literals touch. Reading
its text then gives back the literals, whatever is in them, and the fixed texts (`scanLiterals_render`).
-/

namespace StickerBook.Sql
set_option autoImplicit false

/-- A text without quotes. -/
def Plain (text : String) : Prop := '\'' ∉ text.toList

namespace Plain

instance (text : String) : Decidable (Plain text) :=
  inferInstanceAs (Decidable ('\'' ∉ text.toList))

theorem append {s t : String} (first : Plain s) (second : Plain t) : Plain (s ++ t) := by
  unfold Plain
  rw [String.toList_append, List.mem_append]
  exact not_or.2 ⟨first, second⟩

theorem ite {p : Prop} [Decidable p] {s t : String} (first : Plain s) (second : Plain t) :
    Plain (if p then s else t) := by
  split
  · exact first
  · exact second

/-- A number is written without quotes. -/
theorem toString_nat (n : Nat) : Plain (toString n) := Text.notMem_toString (by decide) n

theorem toString_int (n : Int) : Plain (toString n) := by
  cases n with
  | ofNat n => exact toString_nat n
  | negSucc n =>
    have minus : Plain "-" := by decide
    exact minus.append (toString_nat (n + 1))

end Plain

/-- What stands outside the literals of a list of pieces. -/
def outside (pieces : List Piece) : List Char :=
  pieces.flatMap fun | .fixed text => text.toList | .literal _ => []

/-- The fixed texts are plain, and each literal is followed by the end or by a fixed text that is not empty. -/
inductive Separated : List Piece → Prop where
  | nil : Separated []
  | fixed {text : String} {rest : List Piece} (plain : Plain text) (tail : Separated rest) :
    Separated (.fixed text :: rest)
  | last {value : String} : Separated [.literal value]
  | literal {value text : String} {rest : List Piece} (apart : text ≠ "")
    (tail : Separated (.fixed text :: rest)) : Separated (.literal value :: .fixed text :: rest)

section
variable {c : Char} {body rest : List Char}

theorem scanFrom_outside (other : c ≠ '\'') :
    scanFrom none (c :: rest) = (scanFrom none rest).map fun s => { s with outside := c :: s.outside } := by
  rw [scanFrom, if_neg other]

theorem scanFrom_open : scanFrom none ('\'' :: rest) = scanFrom (some []) rest := by
  rw [scanFrom, if_pos rfl]

theorem scanFrom_inside (other : c ≠ '\'') :
    scanFrom (some body) (c :: rest) = scanFrom (some (c :: body)) rest := by
  rw [scanFrom.eq_def]
  simp only [if_neg other]

theorem scanFrom_pair : scanFrom (some body) ('\'' :: '\'' :: rest) = scanFrom (some ('\'' :: body)) rest := by
  rw [scanFrom.eq_def]
  simp only [if_true]

theorem scanFrom_close (closed : ∀ more, rest ≠ '\'' :: more) : scanFrom (some body) ('\'' :: rest) =
    (scanFrom none rest).map fun s => { s with literals := body.reverse :: s.literals } := by
  rw [scanFrom.eq_def]
  simp only [if_true]

end

/-- The body of a literal is read to the closing quote, and its doubled quotes become single ones again. -/
theorem scanFrom_doubled {rest : List Char} (closed : ∀ more, rest ≠ '\'' :: more) (value body : List Char) :
    scanFrom (some body) (doubled value ++ '\'' :: rest) =
      (scanFrom none rest).map fun s => { s with literals := (body.reverse ++ value) :: s.literals } := by
  induction value generalizing body with
  | nil =>
    rw [doubled, List.nil_append, scanFrom_close closed, List.append_nil]
  | cons c value ih =>
    have moved : (c :: body).reverse ++ value = body.reverse ++ c :: value := by
      rw [List.reverse_cons, List.append_assoc, List.singleton_append]
    by_cases quote : c = '\''
    · subst quote
      rw [doubled, if_pos rfl, List.cons_append, List.cons_append, scanFrom_pair, ih, moved]
    · rw [doubled, if_neg quote, List.cons_append, scanFrom_inside quote, ih, moved]

/-- A text without quotes is read as it stands. -/
theorem scanFrom_plain {cs : List Char} (plain : '\'' ∉ cs) (rest : List Char) :
    scanFrom none (cs ++ rest) = (scanFrom none rest).map fun s => { s with outside := cs ++ s.outside } := by
  induction cs with
  | nil => exact Option.map_id'.symm
  | cons c cs ih =>
    obtain ⟨other, plain⟩ := not_or.1 (mt List.mem_cons.2 plain)
    rw [List.cons_append, scanFrom_outside (Ne.symm other), ih plain, Option.map_map]
    rfl

theorem toList_render_nil : (render []).toList = [] := rfl

theorem toList_render_cons (piece : Piece) (pieces : List Piece) :
    (render (piece :: pieces)).toList = piece.render.toList ++ (render pieces).toList := by
  unfold render
  rw [List.map_cons, String.join_cons, String.toList_append]

theorem toList_render_literal (value : String) :
    (Piece.literal value).render.toList = '\'' :: (doubled value.toList ++ ['\'']) :=
  String.toList_ofList

namespace Separated
variable {pieces more : List Piece} {text : String}

theorem plain (separated : Separated (.fixed text :: pieces)) : Plain text := by
  cases separated with
  | fixed plain _ => exact plain

/-- After a literal its closing quote stands alone. -/
theorem render_ne_quote (separated : Separated (.fixed text :: pieces)) (apart : text ≠ "") (rest : List Char) :
    (render (.fixed text :: pieces)).toList ≠ '\'' :: rest := by
  intro same
  rw [toList_render_cons] at same
  cases start : text.toList with
  | nil => exact apart (String.toList_eq_nil_iff.1 start)
  | cons c cs =>
    rw [Piece.render, start, List.cons_append] at same
    obtain ⟨rfl, -⟩ := List.cons.inj same
    exact separated.plain (start ▸ List.mem_cons_self)

/-- **Reading back.** -/
theorem scanLiterals_render (separated : Separated pieces) : scanLiterals (render pieces) =
    some { literals := (literals pieces).map String.toList, outside := outside pieces } := by
  unfold scanLiterals
  induction separated with
  | nil =>
    rw [toList_render_nil, scanFrom]
    rfl
  | fixed plain _ ih =>
    rw [toList_render_cons, Piece.render, scanFrom_plain plain, ih]
    rfl
  | last =>
    rw [toList_render_cons, toList_render_literal, List.cons_append, scanFrom_open, List.append_assoc,
      List.singleton_append, toList_render_nil, scanFrom_doubled (fun _ => List.cons_ne_nil _ _ ∘ Eq.symm), scanFrom]
    rfl
  | literal apart tail ih =>
    rw [toList_render_cons, toList_render_literal, List.cons_append, scanFrom_open, List.append_assoc,
      List.singleton_append, scanFrom_doubled (tail.render_ne_quote apart), ih]
    rfl

theorem append (left : Separated pieces) (apart : text ≠ "") (right : Separated (.fixed text :: more)) :
    Separated (pieces ++ .fixed text :: more) := by
  induction left with
  | nil => exact right
  | fixed plain _ ih => exact .fixed plain ih
  | last => exact .literal apart right
  | literal between _ ih => exact .literal between ih

theorem joinPieces {separator : String} (plain : Plain separator) (apart : separator ≠ "")
    {parts : List (List Piece)} (each : ∀ p ∈ parts, Separated p) : Separated (joinPieces separator parts) := by
  induction parts with
  | nil => exact .nil
  | cons p parts ih =>
    have first := each p List.mem_cons_self
    cases parts with
    | nil => exact first
    | cons q parts =>
      have later := ih fun r member => each r (List.mem_cons_of_mem _ member)
      exact first.append apart (.fixed plain later)

end Separated

section
variable {pieces more : List Piece}

@[simp] theorem outside_fixed {text : String} : outside (.fixed text :: pieces) = text.toList ++ outside pieces := rfl

@[simp] theorem outside_literal {value : String} : outside (.literal value :: pieces) = outside pieces := rfl

@[simp] theorem outside_append : outside (pieces ++ more) = outside pieces ++ outside more := List.flatMap_append

@[simp] theorem literals_nil : literals [] = [] := rfl

@[simp] theorem literals_fixed {text : String} : literals (.fixed text :: pieces) = literals pieces := rfl

@[simp] theorem literals_literal {value : String} :
    literals (.literal value :: pieces) = value :: literals pieces := rfl

@[simp] theorem literals_append : literals (pieces ++ more) = literals pieces ++ literals more :=
  List.filterMap_append

theorem joinPieces_cons_cons (separator : String) (p q : List Piece) (parts : List (List Piece)) :
    joinPieces separator (p :: q :: parts) = p ++ .fixed separator :: joinPieces separator (q :: parts) := rfl

/-- Joined lists are read with the separator between what stands outside the literals of each. -/
theorem outside_joinPieces (separator : String) (parts : List (List Piece)) :
    outside (joinPieces separator parts) = List.intercalate separator.toList (parts.map outside) := by
  induction parts with
  | nil => rfl
  | cons p parts ih =>
    cases parts with
    | nil => exact (List.append_nil _).symm
    | cons q parts =>
      rw [joinPieces_cons_cons, outside_append, outside_fixed, ih, ← List.append_assoc]
      exact List.intercalate_cons_cons.symm

/-- Joining lists adds no literal. -/
theorem literals_joinPieces (separator : String) (parts : List (List Piece)) :
    literals (joinPieces separator parts) = parts.flatMap literals := by
  induction parts with
  | nil => rfl
  | cons p parts ih =>
    cases parts with
    | nil => exact (List.append_nil _).symm
    | cons q parts =>
      rw [joinPieces_cons_cons, literals_append, List.flatMap_cons, ← ih]
      rfl

end

end StickerBook.Sql
