import ColumnQuery.Calendar
import ColumnQuery.Json.Numeral
import ColumnQuery.Toml.Basic
import ColumnQuery.Toml.Text

/-! The values of TOML that are written without quotes: truth values, numbers, dates and times. Each
is recognised from its whole text. -/
namespace ColumnQuery.Toml
open ColumnQuery.Text

/-- Digits with single underscores between them, the underscores taken out. -/
def ungrouped? (isDigit : Char → Bool) (cs : List Char) : Option (List Char) :=
  match cs with
  | [] => none
  | [c] => if isDigit c then some [c] else none
  | c :: '_' :: d :: rest =>
    if isDigit c then (ungrouped? isDigit (d :: rest)).map (c :: ·) else none
  | c :: rest => if isDigit c then (ungrouped? isDigit rest).map (c :: ·) else none

/-- Decimal digits that begin with zero only when they are zero. -/
def decimal? (cs : List Char) : Option Nat :=
  match ungrouped? Char.isDigit cs with
  | none => none
  | some ('0' :: _ :: _) => none
  | some digits => some (Json.decimalNumber digits)

/-- Digits of a base up to sixteen. -/
def based? (base : Nat) (cs : List Char) : Option Nat :=
  let isDigit (c : Char) := ((hexValue? c).map (decide <| · < base)).getD false
  (ungrouped? isDigit cs).map fun digits =>
    digits.foldl (fun n c => base * n + (hexValue? c).getD 0) 0

/-- A sign and what follows it; a minus sign is true. -/
def signed (cs : List Char) : Bool × List Char :=
  match cs with
  | '-' :: rest => (true, rest)
  | '+' :: rest => (false, rest)
  | _ => (false, cs)

/-- An integer as a value: it can be read when 128 bits hold it, with a sign or without. -/
def ofInteger (n : Int) : Toml :=
  if -0x80000000000000000000000000000000 ≤ n ∧ n < 0x100000000000000000000000000000000 then
    .integer n
  else .unreadable

/-- An integer of a base, from after the mark of the base. Without digits it cannot be read. -/
def basedInteger? (base : Nat) (cs : List Char) : Option Toml :=
  if cs.isEmpty then some .unreadable else (based? base cs).map fun n => ofInteger (Int.ofNat n)

/-- An integer: decimal with a sign, or of base 16, 8 or 2 without. -/
def integer? (cs : List Char) : Option Toml :=
  match cs with
  | '0' :: 'x' :: rest => basedInteger? 16 rest
  | '0' :: 'o' :: rest => basedInteger? 8 rest
  | '0' :: 'b' :: rest => basedInteger? 2 rest
  | _ =>
    let (negative, digits) := signed cs
    (decimal? digits).map fun n => ofInteger (if negative then -Int.ofNat n else Int.ofNat n)

/-- The double nearest to `digits · 10 ^ exponent`. Exponents far beyond every double need no
arithmetic. -/
def nearestDecimal (digits : Nat) (exponent : Int) : Binary64 :=
  let places : Int := (toString digits).length
  if digits = 0 ∨ places + exponent < -400 then ⟨0⟩
  else if 400 < places + exponent then Binary64.infinity
  else
    let power := Binary64.powerRatio 10 exponent
    Binary64.nearest (digits * power.1) power.2

/-- The exponent of a decimal, with a sign or without. -/
def power? (cs : List Char) : Option Int :=
  let (negative, digits) := signed cs
  (ungrouped? Char.isDigit digits).map fun digits =>
    let power := Int.ofNat (Json.decimalNumber digits)
    if negative then -power else power

/-- The magnitude of a double: digits with a fraction, an exponent or both. It is infinite when no
double is as large. -/
def magnitude? (cs : List Char) : Option Binary64 := do
  let isMark (c : Char) := c == 'e' || c == 'E'
  let mantissa := cs.takeWhile (!isMark ·)
  let whole := mantissa.takeWhile (· != '.')
  let wholeNumber ← decimal? whole
  let fraction ←
    match mantissa.dropWhile (· != '.') with
    | [] => some []
    | _ :: rest => ungrouped? Char.isDigit rest
  let exponent ←
    match cs.dropWhile (!isMark ·) with
    | [] => if fraction.isEmpty then none else some 0
    | _ :: rest => power? rest
  let digits := fraction.foldl (fun n c => 10 * n + Json.digitValue c) wholeNumber
  return nearestDecimal digits (exponent - fraction.length)

/-- A double with a sign: a number, an infinity, or a NaN. A number that is out of range cannot be
read. -/
def real? (cs : List Char) : Option Toml :=
  let (negative, rest) := signed cs
  let withSign (magnitude : Binary64) : Toml :=
    .real (if negative then magnitude.negated else magnitude)
  if rest = "inf".toList then some (withSign Binary64.infinity)
  else if rest = "nan".toList then some (withSign ⟨0x7ff8000000000000⟩)
  else
    (magnitude? rest).map fun magnitude =>
      if magnitude.isFinite then withSign magnitude else .unreadable

/-- The number that exactly so many decimal digits stand for, and what follows them. -/
def fixed? (count : Nat) (cs : List Char) : Option (Nat × List Char) :=
  let digits := cs.take count
  if digits.length = count ∧ digits.all Char.isDigit then
    some (Json.decimalNumber digits, cs.drop count)
  else none

/-- What follows a character, if that comes. -/
def expect? (c : Char) (cs : List Char) : Option (List Char) :=
  match cs with
  | [] => none
  | d :: rest => if d = c then some rest else none

/-- A date of the calendar, and what follows it. -/
def date? (cs : List Char) : Option (String × List Char) := do
  let (year, cs) ← fixed? 4 cs
  let (month, cs) ← fixed? 2 (← expect? '-' cs)
  let (day, cs) ← fixed? 2 (← expect? '-' cs)
  let date ← Calendar.Date.of? year month day
  return (date.text, cs)

/-- The digits of a fraction of a second, nine of them at most, without zeros at the end. -/
def fractionText (digits : List Char) : String :=
  let kept := ((digits.take 9).reverse.dropWhile (· == '0')).reverse
  if kept.isEmpty then "" else "." ++ String.ofList kept

/-- The seconds of a time of day with their fraction, and what follows them. A second may be a leap
second, and there may be no seconds at all. -/
def seconds? (cs : List Char) : Option (String × List Char) :=
  match cs with
  | ':' :: rest => do
    let (second, cs) ← fixed? 2 rest
    if 60 < second then none
    else
      match cs with
      | '.' :: rest =>
        match rest.takeWhile Char.isDigit with
        | [] => none
        | digits =>
          some (Calendar.padded 2 second ++ fractionText digits, rest.dropWhile Char.isDigit)
      | _ => some (Calendar.padded 2 second, cs)
  | _ => some ("00", cs)

/-- A time of day, and what follows it. -/
def time? (cs : List Char) : Option (String × List Char) := do
  let (hour, cs) ← fixed? 2 cs
  let (minute, cs) ← fixed? 2 (← expect? ':' cs)
  let (seconds, cs) ← seconds? cs
  if hour < 24 ∧ minute < 60 then
    some (Calendar.padded 2 hour ++ ":" ++ Calendar.padded 2 minute ++ ":" ++ seconds, cs)
  else none

/-- A distance from universal time, or nothing, up to the end of the text. No distance is one to the
east. -/
def offset? (cs : List Char) : Option String :=
  match cs with
  | [] => some ""
  | ['Z'] => some "Z"
  | ['z'] => some "Z"
  | sign :: rest =>
    if sign = '+' ∨ sign = '-' then do
      let (hour, cs) ← fixed? 2 rest
      let (minute, cs) ← fixed? 2 (← expect? ':' cs)
      if hour < 24 ∧ minute < 60 ∧ cs.isEmpty then
        let west := sign = '-' ∧ 0 < hour + minute
        some ((if west then "-" else "+") ++ Calendar.padded 2 hour ++ ":" ++
          Calendar.padded 2 minute)
      else none
    else none

/-- A date, a time, or both, the latter with a distance from universal time or without. -/
def moment? (cs : List Char) : Option String :=
  match date? cs with
  | some (date, []) => some date
  | some (date, mark :: rest) =>
    if mark = 'T' ∨ mark = 't' ∨ mark = ' ' then do
      let (time, rest) ← time? rest
      return date ++ "T" ++ time ++ (← offset? rest)
    else none
  | none =>
    match time? cs with
    | some (time, []) => some time
    | _ => none

/-- The value that a text without quotes stands for. -/
def scalarOf? (cs : List Char) : Option Toml :=
  if cs = "true".toList then some (.boolean true)
  else if cs = "false".toList then some (.boolean false)
  else (integer? cs).or (((moment? cs).map Toml.moment).or (real? cs))

/-- The characters of values without quotes. -/
def isScalarChar (c : Char) : Bool :=
  c.isAlphanum || c == '_' || c == '+' || c == '-' || c == '.' || c == ':'

/-- Whether a text is a date that a time after one blank may belong to. -/
def continuesAfterBlank (text : List Char) (rest : List Char) : Bool :=
  (date? text).any (·.2.isEmpty) &&
    match rest with
    | ' ' :: c :: _ => c.isDigit
    | _ => false

/-- Reads a value without quotes. -/
def readScalar (cs : List Char) : Option (Toml × Remainder cs) :=
  let text := cs.takeWhile isScalarChar
  let rest := Remainder.skip isScalarChar cs
  if continuesAfterBlank text rest.1 then
    let time := rest.1.drop 1
    let whole := text ++ ' ' :: time.takeWhile isScalarChar
    (scalarOf? whole).map fun value =>
      (value, rest.trans ((Remainder.drop 1 rest.1).trans (Remainder.skip isScalarChar time)))
  else (scalarOf? text).map fun value => (value, rest)

end ColumnQuery.Toml
