import StickerBook.Json.Number

/-!
# Reading JSON values

Readers for the simple values, for lists and for one nested value that does not matter. Each reader
passes over leading gaps. A value of another type than the one wanted is a mismatch, unless it is
not well formed itself.
-/

namespace StickerBook.Json
set_option autoImplicit false

/-- The defect of a value of the wrong type. Only scalars are read to the end to find out. -/
def wrongType (cs : List Char) : Defect :=
  let verdict {β : Type} : Except Defect β → Defect
    | .error e => e
    | .ok _ => .mismatch
  match cs with
  | [] => .malformed
  | 'n' :: rest => verdict (word "ull".toList rest)
  | 't' :: rest => verdict (word "rue".toList rest)
  | 'f' :: rest => verdict (word "alse".toList rest)
  | '"' :: rest => verdict (stringBody [] rest)
  | '-' :: rest => verdict (number true rest)
  | '[' :: _ => .mismatch
  | '{' :: _ => .mismatch
  | c :: rest => if c.isDigit then verdict (number false (c :: rest)) else .malformed

/-- Reads a value whose first character, after the gaps, is handed to `read`. -/
def onFirst {α : Type} (read : Char → List Char → Except Defect (α × List Char)) : Reader α :=
  fun cs => match skipGaps cs with
    | [] => .error .truncated
    | c :: rest => read c rest

/-- Reads a string. -/
def string : Reader String := onFirst fun c rest =>
  if c = '"' then (stringBody [] rest).map fun (cs, rest) => (String.ofList cs, rest)
  else .error (wrongType (c :: rest))

/-- Reads a string where no other value can stand. -/
def name : Reader String := onFirst fun c rest =>
  if c = '"' then string (c :: rest) else .error .malformed

/-- Reads an integer between two bounds. -/
def integer (lo hi : Int) : Reader Int := onFirst fun c rest =>
  let check : Number × List Char → Except Defect (Int × List Char)
    | (.integer v, rest) => if lo ≤ v ∧ v ≤ hi then .ok (v, rest) else .error .mismatch
    | (.fractional, _) => .error .mismatch
  if c = '-' then (number true rest).bind check
  else if c.isDigit then (number false (c :: rest)).bind check
  else .error (wrongType (c :: rest))

/-- Reads a truth value. -/
def boolean : Reader Bool := onFirst fun c rest =>
  if c = 't' then (word "rue".toList rest).map (true, ·)
  else if c = 'f' then (word "alse".toList rest).map (false, ·)
  else .error (wrongType (c :: rest))

/-- Reads `null`. -/
def null : Reader Unit := onFirst fun c rest =>
  if c = 'n' then (word "ull".toList rest).map ((), ·) else .error (wrongType (c :: rest))

/-- Reads `null` or a value. -/
def optional {α : Type} (read : Reader α) : Reader (Option α) := fun cs =>
  match skipGaps cs with
  | 'n' :: rest => (word "ull".toList rest).map (none, ·)
  | _ => (read cs).map fun (a, rest) => (some a, rest)

/-- Reads a value that is then taken apart further; what `f` refuses is a mismatch. -/
def refine {α β : Type} (read : Reader α) (f : α → Option β) : Reader β := fun cs =>
  match read cs with
  | .error e => .error e
  | .ok (a, rest) =>
    match f a with
    | some b => .ok (b, rest)
    | none => .error .mismatch

/-- Reads a colon. -/
def colon (cs : List Char) : Except Defect (List Char) :=
  match skipGaps cs with
  | [] => .error .truncated
  | c :: rest => if c = ':' then .ok rest else .error .malformed

/-- Looks whether a list goes on: the rest at its next element, or none at the closing bracket. -/
def nextElement (first : Bool) (cs : List Char) : Except Defect (Option (List Char)) :=
  match skipGaps cs with
  | [] => .error .truncated
  | c :: rest =>
    if c = ']' then .ok none
    else if c = ',' && !first then
      match skipGaps rest with
      | [] => .error .truncated
      | d :: rest => if d = ']' then .error .malformed else .ok (some (d :: rest))
    else if first then .ok (some (c :: rest))
    else .error .malformed

/-- Reads the end of a list. -/
def endList (cs : List Char) : Except Defect (List Char) :=
  match skipGaps cs with
  | [] => .error .truncated
  | c :: rest => if c = ']' then .ok rest else .error .malformed

/-- Looks whether an object goes on: the rest inside its next key, or none at the closing brace. -/
def nextKey (first : Bool) (cs : List Char) : Except Defect (Option (List Char)) :=
  match skipGaps cs with
  | [] => .error .truncated
  | c :: rest =>
    if c = '\x7d' then .ok none
    else if c = ',' && !first then
      match skipGaps rest with
      | [] => .error .truncated
      | d :: rest => if d = '"' then .ok (some rest) else .error .malformed
    else if c = '"' && first then .ok (some rest)
    else .error .malformed

/-- Reads the elements of a list after its bracket or after an element. -/
def elements {α : Type} (read : Reader α) (first : Bool) (cs : List Char) :
    Except Defect (List α × List Char) :=
  match nextElement first cs with
  | .error e => .error e
  | .ok none => (endList cs).map ([], ·)
  | .ok (some rest) =>
    match read rest with
    | .error e => .error e
    | .ok (a, rest) =>
      if rest.length < cs.length then
        (elements read false rest).map fun (as, rest) => (a :: as, rest)
      else .error .malformed
termination_by cs.length

/-- Reads a list. -/
def list {α : Type} (read : Reader α) : Reader (List α) := onFirst fun c rest =>
  if c = '[' then elements read true rest else .error (wrongType (c :: rest))

/-- An unclosed list or object. -/
inductive Frame where
  | list
  | object
deriving DecidableEq, Repr

/-- Where a walk over nested values stands: before a value or after one, inside the frames, the
innermost first, with the rest of the text. -/
structure Walk where
  beforeValue : Bool
  frames : List Frame
  rest : List Char

/-- Passes over a scalar that starts with the given character. -/
def skipScalar (c : Char) (rest : List Char) : Except Defect (List Char) :=
  if c = 'n' then word "ull".toList rest
  else if c = 't' then word "rue".toList rest
  else if c = 'f' then word "alse".toList rest
  else if c = '"' then skipString rest
  else if c = '-' then skipNumber rest
  else if c.isDigit then skipNumber (c :: rest)
  else .error .malformed

/-- Passes over a key and its colon. -/
def skipKey (cs : List Char) : Except Defect (List Char) :=
  match skipGaps cs with
  | [] => .error .truncated
  | c :: rest => if c = '"' then (skipString rest).bind colon else .error .malformed

/-- Passes over the start of a value. -/
def Walk.enter (frames : List Frame) (cs : List Char) : Except Defect Walk :=
  match skipGaps cs with
  | [] => .error .truncated
  | c :: rest =>
    if c = '[' then
      match skipGaps rest with
      | ']' :: rest => .ok ⟨false, frames, rest⟩
      | rest => .ok ⟨true, .list :: frames, rest⟩
    else if c = '\x7b' then
      match skipGaps rest with
      | '\x7d' :: rest => .ok ⟨false, frames, rest⟩
      | rest => (skipKey rest).map (⟨true, .object :: frames, ·⟩)
    else (skipScalar c rest).map (⟨false, frames, ·⟩)

/-- Passes over what follows a value inside a frame. -/
def Walk.leave (frame : Frame) (outer : List Frame) (cs : List Char) : Except Defect Walk :=
  match skipGaps cs with
  | [] => .error .truncated
  | c :: rest =>
    match frame with
    | .list =>
      if c = ',' then .ok ⟨true, .list :: outer, rest⟩
      else if c = ']' then .ok ⟨false, outer, rest⟩
      else .error .malformed
    | .object =>
      if c = ',' then (skipKey rest).map (⟨true, .object :: outer, ·⟩)
      else if c = '\x7d' then .ok ⟨false, outer, rest⟩
      else .error .malformed

/-- One step of a walk; the walk ends after a value outside all frames. -/
def Walk.step? (w : Walk) : Option (Except Defect Walk) :=
  match w.beforeValue, w.frames with
  | true, frames => some (Walk.enter frames w.rest)
  | false, frame :: outer => some (Walk.leave frame outer w.rest)
  | false, [] => none

/-- Takes a walk to its end. Every step reads a character. -/
def Walk.finish (w : Walk) : Except Defect (List Char) :=
  match w.step? with
  | none => .ok w.rest
  | some (.error e) => .error e
  | some (.ok next) => if next.rest.length < w.rest.length then next.finish else .error .malformed
termination_by w.rest.length

/-- Passes over one value of any depth. -/
def skipValue (cs : List Char) : Except Defect (List Char) := Walk.finish ⟨true, [], cs⟩

end StickerBook.Json
