import StickerBook.Json.Scan

/-!
# JSON numbers

A number with a fraction or an exponent, an integer beyond 64 bits and a negative zero are
fractional numbers; only their size matters here. A fractional number is too large if rounding it to
double precision gives infinity. The rounding is done in two steps, the digits first.
-/

namespace StickerBook.Json
set_option autoImplicit false

/-- A number as it is read: an integer of at most 64 bits, or any other number. -/
inductive Number where
  | integer (value : Int)
  | fractional
deriving DecidableEq, Repr

/-- A natural number rounded to 53 significant bits, a tie to the even neighbour. -/
def roundTo53Bits (n : Nat) : Nat :=
  let spare := n.log2 + 1 - 53
  let unit := Nat.pow 2 spare
  let low := n % unit
  let floor := n / unit
  let up := 2 * low > unit || (2 * low = unit && floor % 2 = 1)
  (if up then floor + 1 else floor) * unit

/-- The number `digits · 10 ^ exponent` exceeds every double-precision number. -/
def overflows (digits : Nat) (exponent : Int) : Bool :=
  if digits = 0 then false
  else if exponent ≤ 0 then false
  else if exponent > 308 then true
  else decide (roundTo53Bits digits * roundTo53Bits (Nat.pow 10 exponent.toNat) ≥ Nat.pow 2 1024 - Nat.pow 2 970)

/-- A fractional number, unless it is too large. -/
def sized (digits : Nat) (exponent : Int) (rest : List Char) : Except Defect (Number × List Char) :=
  if overflows digits exponent then .error .malformed else .ok (.fractional, rest)

/-- The value of a digit. -/
def digitValue (c : Char) : Nat := c.toNat - '0'.toNat

/-- Reads digits as long as their value fits a word; a digit that does not fit stays in the rest. -/
def wordDigits (value : Nat) : List Char → Nat × List Char
  | [] => (value, [])
  | c :: cs =>
    if c.isDigit && value * 10 + digitValue c ≤ maxWord then wordDigits (value * 10 + digitValue c) cs
    else (value, c :: cs)

/-- Reads an exponent after its letter. `shift` is the exponent of the digits read so far. -/
def exponent (digits : Nat) (shift : Int) (cs : List Char) : Except Defect (Number × List Char) :=
  let (negative, cs) := match cs with
    | '+' :: rest => (false, rest)
    | '-' :: rest => (true, rest)
    | _ => (false, cs)
  match cs with
  | [] => .error .truncated
  | c :: _ =>
    if c.isDigit then
      let value : Int := (cs.takeWhile Char.isDigit).foldl (fun n d => n * 10 + digitValue d) 0
      sized digits (if negative then shift - value else shift + value) (cs.dropWhile Char.isDigit)
    else .error .malformed

/-- Reads a fraction after its point. -/
def fraction (digits : Nat) (shift : Int) (cs : List Char) : Except Defect (Number × List Char) :=
  match cs with
  | [] => .error .truncated
  | c :: _ =>
    if c.isDigit then
      let (digits', tail) := wordDigits digits cs
      let shift := shift - (cs.length - tail.length : Nat)
      match cs.dropWhile Char.isDigit with
      | 'e' :: rest => exponent digits' shift rest
      | 'E' :: rest => exponent digits' shift rest
      | rest => sized digits' shift rest
    else .error .malformed

/-- Reads a number after its sign. -/
def number (negative : Bool) (cs : List Char) : Except Defect (Number × List Char) :=
  match cs with
  | [] => .error .truncated
  | c :: rest =>
    if !c.isDigit then .error .malformed
    else if c = '0' && rest.head?.any Char.isDigit then .error .malformed
    else
      let (digits, tail) := wordDigits 0 cs
      let surplus := (tail.takeWhile Char.isDigit).length
      match tail.dropWhile Char.isDigit with
      | '.' :: rest => fraction digits surplus rest
      | 'e' :: rest => exponent digits surplus rest
      | 'E' :: rest => exponent digits surplus rest
      | rest =>
        if 0 < surplus then sized digits surplus rest
        else if negative then
          if digits = 0 || -(digits : Int) < minDate then .ok (.fractional, rest)
          else .ok (.integer (-(digits : Int)), rest)
        else .ok (.integer digits, rest)

/-- Passes over one or more digits. -/
def skipDigits (cs : List Char) : Except Defect (List Char) :=
  if cs.head?.any Char.isDigit then .ok (cs.dropWhile Char.isDigit) else .error .malformed

/-- Passes over an exponent, if there is one. -/
def skipExponent (cs : List Char) : Except Defect (List Char) :=
  match cs with
  | c :: rest =>
    if c = 'e' || c = 'E' then
      match rest with
      | '+' :: rest => skipDigits rest
      | '-' :: rest => skipDigits rest
      | rest => skipDigits rest
    else .ok cs
  | [] => .ok []

/-- Passes over a number after its sign, whatever its size. A number that breaks off is malformed. -/
def skipNumber (cs : List Char) : Except Defect (List Char) :=
  match cs with
  | '0' :: rest => if rest.head?.any Char.isDigit then .error .malformed else tail rest
  | _ => (skipDigits cs).bind tail
where
  /-- Passes over the fraction and the exponent. -/
  tail : List Char → Except Defect (List Char)
    | '.' :: rest => (skipDigits rest).bind skipExponent
    | rest => skipExponent rest

end StickerBook.Json
