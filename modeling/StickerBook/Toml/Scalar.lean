import StickerBook.Toml.Text

/-!
# TOML numbers, truth values and moments

These scalars are written as a bare word. An integer is decimal, with an optional sign and no leading
zeros, or hexadecimal, octal or binary after `0x`, `0o` or `0b`; underscores may stand between digits.
The digits of an integer are only looked at closely when its value is wanted, so a word can be an
integer without a value. Fractional numbers and moments are checked and kept as they are written.
-/

namespace StickerBook.Toml
set_option autoImplicit false

/-- A scalar that is not a string. An integer whose digits are no number has no value. -/
inductive Scalar where
  | integer (value : Option Int)
  | float (text : String)
  | boolean (value : Bool)
  | moment (text : String)
deriving DecidableEq, Repr

/-- The character is a digit of a base up to sixteen. -/
def isDigitOf (base : Nat) (c : Char) : Bool := (hexValue? c).any (· < base)

/-- Every underscore stands between two digits; `afterDigit` says whether the text follows one. -/
def underscoresFit (isDigit : Char → Bool) (afterDigit : Bool) : List Char → Bool
  | [] => true
  | c :: rest =>
    if c = '_' then afterDigit && rest.head?.any isDigit && underscoresFit isDigit false rest
    else underscoresFit isDigit (isDigit c) rest

/-- The number that a run of digits denotes in a base. Underscores do not count. -/
def inBase? (base : Nat) (cs : List Char) : Option Nat :=
  let digits := cs.filter (· ≠ '_')
  if !digits.isEmpty && digits.all (isDigitOf base) then
    some (digits.foldl (fun n c => base * n + (hexValue? c).getD 0) 0)
  else none

/-- A run of decimal digits in which single underscores may stand between two of them. -/
def isDigitRun (cs : List Char) : Bool :=
  (inBase? 10 cs).isSome && underscoresFit Char.isDigit false cs

/-- An optional sign, and the text after it. -/
def signed : List Char → Bool × List Char
  | '-' :: rest => (true, rest)
  | '+' :: rest => (false, rest)
  | cs => (false, cs)

/-- The text starts with a zero that another character follows. -/
def zeroLeads : List Char → Bool
  | '0' :: _ :: _ => true
  | _ => false

/-- The letter of an exponent. -/
def isExponentLetter (c : Char) : Bool := c = 'e' || c = 'E'

/-- The base that a letter after a leading zero announces. -/
def baseOf? : Char → Option Nat
  | 'x' => some 16
  | 'o' => some 8
  | 'b' => some 2
  | _ => none

/-- What follows the first digits of a decimal integer: nothing, or more from an underscore on. -/
def continuesDigits : List Char → Bool
  | [] => true
  | '_' :: rest => !rest.any fun c => c = ' ' || c = '.' || isExponentLetter c
  | _ => false

/-- Reads a decimal integer without its sign as an integer word, with its value if it has one. -/
def decimal? (digits : List Char) : Option (Option Nat) :=
  let (run, tail) := digits.span Char.isDigit
  if !run.isEmpty && !zeroLeads digits && continuesDigits tail
      && underscoresFit (isDigitOf 16) false digits then
    some (inBase? 10 digits)
  else none

/-- Reads the digits after the letter of a base as an integer word, with its value if it has one. -/
def based? (base : Nat) (digits : List Char) : Option (Option Nat) :=
  if digits.all (fun c => isDigitOf base c || c = '_') && underscoresFit (isDigitOf 16) false digits then
    some (inBase? base digits)
  else none

/-- Reads a decimal integer word with an optional sign, with its value if it has one. -/
def signedDecimal? (cs : List Char) : Option (Option Int) :=
  let (negative, digits) := signed cs
  (decimal? digits).map (·.map fun n => if negative then -(n : Int) else n)

/-- Reads an integer word, with its value if it has one. -/
def integer? (cs : List Char) : Option (Option Int) :=
  match cs with
  | '0' :: letter :: rest =>
    match baseOf? letter with
    | some base => (based? base rest).map (·.map Int.ofNat)
    | none => signedDecimal? cs
  | _ => signedDecimal? cs

/-- An exponent after its letter. -/
def isExponent (cs : List Char) : Bool := isDigitRun (signed cs).2

/-- The word is a fractional number. -/
def isFloat (cs : List Char) : Bool :=
  let digits := (signed cs).2
  let (whole, tail) := digits.span fun c => !isExponentLetter c && c ≠ '.'
  if digits = "inf".toList ∨ digits = "nan".toList then true
  else if zeroLeads whole || !isDigitRun whole then false
  else match tail with
    | [] => false
    | '.' :: tail =>
      let (fraction, tail) := tail.span (!isExponentLetter ·)
      isDigitRun fraction && (tail.isEmpty || isExponent tail.tail)
    | _ :: tail => isExponent tail

/-- A number of exactly two digits between bounds. -/
def twoDigits (lo hi : Nat) : List Char → Option (List Char)
  | a :: b :: rest =>
    if a.isDigit && b.isDigit then
      let n := 10 * (a.toNat - '0'.toNat) + (b.toNat - '0'.toNat)
      if lo ≤ n ∧ n ≤ hi then some rest else none
    else none
  | _ => none

/-- Passes over one of the given characters. -/
def oneOf (wanted : List Char) : List Char → Option (List Char)
  | c :: rest => if c ∈ wanted then some rest else none
  | [] => none

/-- The days of a month. -/
def daysIn (year month : Nat) : Nat :=
  if month = 2 then
    if year % 4 = 0 ∧ (year % 100 ≠ 0 ∨ year % 400 = 0) then 29 else 28
  else if month ∈ [4, 6, 9, 11] then 30
  else 31

/-- Passes over a date. -/
def date (cs : List Char) : Option (List Char) := do
  let year ← inBase? 10 (cs.take 4)
  let rest ← oneOf ['-'] (cs.drop 4)
  let month ← inBase? 10 (rest.take 2)
  let rest ← twoDigits 1 12 rest
  let rest ← oneOf ['-'] rest
  if (cs.take 4).length = 4 ∧ (cs.take 4).all Char.isDigit then twoDigits 1 (daysIn year month) rest else none

/-- Passes over a fraction of a second, if there is one. -/
def secondFraction : List Char → Option (List Char)
  | '.' :: rest =>
    match rest with
    | c :: _ => if c.isDigit then some (rest.dropWhile Char.isDigit) else none
    | [] => none
  | cs => some cs

/-- Passes over a time of day. -/
def timeOfDay (cs : List Char) : Option (List Char) := do
  let rest ← twoDigits 0 23 cs
  let rest ← oneOf [':'] rest
  let rest ← twoDigits 0 59 rest
  match rest with
  | ':' :: rest => secondFraction (← twoDigits 0 60 rest)
  | _ => some rest

/-- Passes over an offset from universal time. -/
def offset (cs : List Char) : Option (List Char) :=
  match cs with
  | 'Z' :: rest => some rest
  | 'z' :: rest => some rest
  | _ => do
    let rest ← oneOf ['+', '-'] cs
    let rest ← twoDigits 0 23 rest
    let rest ← oneOf [':'] rest
    twoDigits 0 59 rest

/-- The word is a date, a time of day, or both, with an offset or without one. -/
def isMoment (cs : List Char) : Bool :=
  match date cs with
  | none => timeOfDay cs = some []
  | some [] => true
  | some rest =>
    match (oneOf ['T', 't', ' '] rest).bind timeOfDay with
    | none => false
    | some [] => true
    | some rest => offset rest = some []

/-- The scalar that a word denotes. -/
def scalar? (cs : List Char) : Option Scalar :=
  if cs = "true".toList then some (.boolean true)
  else if cs = "false".toList then some (.boolean false)
  else match integer? cs with
    | some n => some (.integer n)
    | none =>
      if isFloat cs then some (.float (.ofList cs))
      else if isMoment cs then some (.moment (.ofList cs))
      else none

/-- Characters that end a bare word. -/
def endsWord (c : Char) : Bool := c ∈ " \t\r\n#,=[]\x7b\x7d".toList

/-- A bare word goes on here after blanks. -/
def resumesWord : List Char → Bool
  | c :: _ => !endsWord c && c ≠ '"' && c ≠ '\''
  | [] => false

/-- Splits off a bare word. Blanks belong to it where the word goes on after them. -/
def bareWord (cs : List Char) : List Char × List Char :=
  let part := cs.takeWhile (!endsWord ·)
  let rest := cs.dropWhile (!endsWord ·)
  let tail := rest.dropWhile isSpace
  if resumesWord tail && tail.length < cs.length then
    let (more, rest') := bareWord tail
    (part ++ rest.takeWhile isSpace ++ more, rest')
  else (part, rest)
termination_by cs.length
decreasing_by all_goals grind

/-- Reads a scalar. -/
def scalar : Reader Scalar := fun cs =>
  let (word, rest) := bareWord cs
  (scalar? word).map (·, rest)

end StickerBook.Toml
