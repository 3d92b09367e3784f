/-
Numbers and times of TOML.

A number or time is a run of letters, digits and a few signs; `Toml.scalar?` tells what a run
stands for.
-/
import VariantStrip.Text.Digit
import VariantStrip.Toml.Value

namespace VariantStrip.Toml

open Text (hexValue? natOf numberOf)

/-- Reads one character. -/
def char? (c : Char) : List Char → Option (List Char)
  | d :: cs => if d = c then some cs else none
  | [] => none

/-- Reads a number of exactly `count` decimal digits that is not above a limit. -/
def fixed? (count least most : Nat) (cs : List Char) : Option (Nat × List Char) :=
  let digits := cs.take count
  let n := natOf digits
  if digits.length = count ∧ digits.all Char.isDigit ∧ least ≤ n ∧ n ≤ most then
    some (n, cs.drop count)
  else none

/-! ### Times -/

/-- The number of days of a month. -/
def daysOf (year month : Nat) : Nat :=
  if month = 2 then
    if year % 4 = 0 ∧ (year % 100 ≠ 0 ∨ year % 400 = 0) then 29 else 28
  else if month = 4 ∨ month = 6 ∨ month = 9 ∨ month = 11 then 30
  else 31

/-- Reads a day. -/
def day? (cs : List Char) : Option (List Char) := do
  let (year, cs) ← fixed? 4 0 9999 cs
  let (month, cs) ← fixed? 2 1 12 (← char? '-' cs)
  let (_, cs) ← fixed? 2 1 (daysOf year month) (← char? '-' cs)
  return cs

/-- Reads a time of day. -/
def clock? (cs : List Char) : Option (List Char) := do
  let (_, cs) ← fixed? 2 0 23 cs
  let (_, cs) ← fixed? 2 0 59 (← char? ':' cs)
  let (_, cs) ← fixed? 2 0 60 (← char? ':' cs)
  match cs with
  | '.' :: cs => if (cs.head?.any Char.isDigit) then some (cs.dropWhile Char.isDigit) else none
  | cs => some cs

/-- Reads the distance from universal time, if there is one. -/
def zone? : List Char → Option (List Char)
  | [] => some []
  | c :: cs =>
    if c = 'Z' ∨ c = 'z' then some cs
    else if c = '+' ∨ c = '-' then do
      let (_, cs) ← fixed? 2 0 23 cs
      let (_, cs) ← fixed? 2 0 59 (← char? ':' cs)
      return cs
    else none

/-- Whether a run is a day, a time of day, or both with or without a zone. -/
def isTime (run : List Char) : Bool :=
  match day? run with
  | some [] => true
  | some (c :: cs) => (c == 'T' || c == 't') && ((clock? cs).bind zone?) == some []
  | none => clock? run == some []

/-! ### Numbers -/

/-- Reads digits that single underscores may separate. -/
def digits? (isDigit : Char → Bool) : List Char → Option (List Char × List Char)
  | [] => none
  | c :: cs =>
    if isDigit c then
      match cs with
      | '_' :: rest => (digits? isDigit rest).map fun (ds, rest) => (c :: ds, rest)
      | cs =>
        match digits? isDigit cs with
        | some (ds, rest) => some (c :: ds, rest)
        | none => some ([c], cs)
    else none

/-- Whether the digits of a run to some base stand for a number of 63 bits. -/
def isBased (base : Nat) (run : List Char) : Bool :=
  match digits? (fun c => (hexValue? c).any (· < base)) run with
  | some (ds, []) => numberOf base (ds.filterMap hexValue?) < Nat.pow 2 63
  | _ => false

/-- Takes a sign off a run, and tells whether it is a minus. -/
def unsigned : List Char → Bool × List Char
  | '+' :: cs => (false, cs)
  | '-' :: cs => (true, cs)
  | cs => (false, cs)

/-- Reads the whole part of a number: a zero, or digits that do not start with one. -/
def whole? (cs : List Char) : Option (List Char × List Char) :=
  match cs with
  | '0' :: cs => some (['0'], cs)
  | cs => digits? Char.isDigit cs

/-- Reads the exponent of a number; an absent one is zero. -/
def exponent? : List Char → Option (Int × List Char)
  | [] => some (0, [])
  | c :: cs =>
    if c = 'e' ∨ c = 'E' then do
      let (negative, cs) := unsigned cs
      let (ds, cs) ← digits? Char.isDigit cs
      return (if negative then -(natOf ds : Int) else natOf ds, cs)
    else none

/-- The least number that is too large for a double of 64 bits: half a step above the largest. -/
def tooLarge : Nat := Nat.pow 2 1024 - Nat.pow 2 970

/-- Whether digits times a power of ten are too large for a double. -/
def exceedsDouble (digits : List Char) (power : Int) : Bool :=
  let m := natOf digits
  let size := (toString m).length + power
  if m = 0 ∨ size < 300 then false
  else if 400 < size then true
  else if 0 ≤ power then tooLarge ≤ m * Nat.pow 10 power.toNat
  else tooLarge * Nat.pow 10 (-power).toNat ≤ m

/-- Whether a run is a decimal number that fits: a whole one into 64 bits, another one into a
double. The limit for doubles holds for positive numbers only. -/
def isDecimal (run : List Char) : Bool :=
  let (negative, cs) := unsigned run
  match whole? cs with
  | none => false
  | some (ds, []) =>
    if negative then natOf ds ≤ Nat.pow 2 63 else natOf ds < Nat.pow 2 63
  | some (ds, cs) =>
    let fraction := match cs with
      | '.' :: cs => digits? Char.isDigit cs
      | cs => some ([], cs)
    match fraction with
    | none => false
    | some (fs, cs) =>
      match exponent? cs with
      | some (e, []) => negative || !exceedsDouble (ds ++ fs) (e - fs.length)
      | _ => false

/-- Whether a run is a number. -/
def isNumber (run : List Char) : Bool :=
  match run with
  | '0' :: 'x' :: cs => isBased 16 cs
  | '0' :: 'o' :: cs => isBased 8 cs
  | '0' :: 'b' :: cs => isBased 2 cs
  | run =>
    let special := (unsigned run).2
    special == "inf".toList || special == "nan".toList || isDecimal run

/-- What a run stands for. -/
def scalar? (run : List Char) : Option Toml :=
  if run = "true".toList then some (.bool true)
  else if run = "false".toList then some (.bool false)
  else if isTime run then some .time
  else if isNumber run then some .number
  else none

end VariantStrip.Toml
