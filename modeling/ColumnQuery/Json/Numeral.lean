import ColumnQuery.Json.Basic
import ColumnQuery.Text.Remainder

/-! Numbers as JSON writes them. A numeral without fraction and exponent that fits a word is an
integer; every other numeral is a double. A double is computed in steps that each round: the digits
that fit 64 bits, then the powers of ten they are multiplied with or divided by. -/
namespace ColumnQuery.Json
open Text

/-- A written number: its sign, its digits before and after the point, and its power of ten. -/
structure Numeral where
  negative : Bool
  whole : List Char
  fraction : Option (List Char)
  exponent : Option Int

/-- The value of a decimal digit. -/
def digitValue (c : Char) : Nat :=
  c.toNat - 48

/-- The number that decimal digits stand for. -/
def decimalNumber (digits : List Char) : Nat :=
  digits.foldl (fun n c => 10 * n + digitValue c) 0

/-- Appends digits to a number while the result fits 64 bits; also the digits left out. -/
def appendDigits (n : Nat) : List Char → Nat × List Char
  | [] => (n, [])
  | c :: rest =>
    if 10 * n + digitValue c < 0x10000000000000000 then appendDigits (10 * n + digitValue c) rest
    else (n, c :: rest)

/-- The greatest power of ten that is multiplied with in one step. -/
def greatestPower : Nat :=
  308

/-- The double nearest to a power of ten. -/
def powerOfTen (exponent : Nat) : Binary64 :=
  Binary64.ofNat (Nat.pow 10 exponent)

/-- A non-negative double divided by a power of ten, in steps of the greatest power. -/
def dividedDown (x : Binary64) (exponent : Nat) : Binary64 :=
  if exponent ≤ greatestPower then x.quotient (powerOfTen exponent)
  else if x = ⟨0⟩ then x
  else dividedDown (x.quotient (powerOfTen greatestPower)) (exponent - greatestPower)
termination_by exponent
decreasing_by simp only [greatestPower] at *; omega

/-- A non-negative double times a power of ten, none when that is out of range. -/
def scaled? (x : Binary64) (exponent : Int) : Option Binary64 :=
  if exponent < 0 then some (dividedDown x exponent.natAbs)
  else if exponent ≤ greatestPower then
    let scaled := x.product (powerOfTen exponent.toNat)
    if scaled.isFinite then some scaled else none
  else if x = ⟨0⟩ then some x
  else none

namespace Numeral

/-- The magnitude of a numeral as a double, none when that is out of range. -/
def magnitude? (n : Numeral) : Option Binary64 :=
  let (whole, droppedWhole) := appendDigits 0 n.whole
  let fraction := n.fraction.getD []
  let (digits, droppedFraction) := appendDigits whole fraction
  let places := fraction.length - droppedFraction.length
  scaled? (Binary64.ofNat digits) ((droppedWhole.length : Int) - places + n.exponent.getD 0)

/-- The double that a numeral stands for. -/
def real? (n : Numeral) : Option Number :=
  match n.magnitude? with
  | none => none
  | some magnitude =>
    let value := if n.negative then magnitude.negated else magnitude
    if finite : value.isFinite = true then some (.real value finite) else none

/-- The number that a numeral stands for. A negative zero and an integer beyond the words are
doubles. -/
def number? (n : Numeral) : Option Number :=
  match n.fraction, n.exponent with
  | none, none =>
    let magnitude : Int := decimalNumber n.whole
    let value := if n.negative then -magnitude else magnitude
    if n.negative ∧ magnitude = 0 then n.real?
    else if fits : -0x8000000000000000 ≤ value ∧ value < 0x10000000000000000 then some (.integer value fits.1 fits.2)
    else n.real?
  | _, _ => n.real?

/-- Reads a fraction, if there is one: a point and at least one digit. -/
def readFraction (cs : List Char) : Option (Option (List Char) × Remainder cs) :=
  match cs with
  | '.' :: rest =>
    match rest.takeWhile Char.isDigit with
    | [] => none
    | digits => some (some digits, (Shorter.ofTail (Remainder.skip Char.isDigit rest)).toRemainder)
  | _ => some (none, Remainder.all _)

/-- Reads the digits of an exponent, at least one. -/
def readPower (negative : Bool) (cs : List Char) : Option (Int × Remainder cs) :=
  match cs.takeWhile Char.isDigit with
  | [] => none
  | digits =>
    let power : Int := decimalNumber digits
    some (if negative then -power else power, Remainder.skip Char.isDigit cs)

/-- Reads an exponent after its mark, which may have a sign. -/
def readSignedPower (cs : List Char) : Option (Int × Remainder cs) :=
  match cs with
  | '+' :: rest =>
    (readPower false rest).map fun (power, rest) => (power, (Shorter.ofTail rest).toRemainder)
  | '-' :: rest =>
    (readPower true rest).map fun (power, rest) => (power, (Shorter.ofTail rest).toRemainder)
  | unsigned => readPower false unsigned

/-- Reads an exponent, if there is one. -/
def readExponent (cs : List Char) : Option (Option Int × Remainder cs) :=
  match cs with
  | c :: rest =>
    if c = 'e' ∨ c = 'E' then
      (readSignedPower rest).map fun (power, rest) =>
        (some power, (Shorter.ofTail rest).toRemainder)
    else some (none, Remainder.all _)
  | [] => some (none, Remainder.all _)

/-- Reads a numeral from its first digit on. A zero is followed by no other digit of the whole
part. -/
def readDigits (negative : Bool) (cs : List Char) : Option (Numeral × Remainder cs) :=
  match cs.takeWhile Char.isDigit with
  | [] => none
  | first :: others =>
    if first = '0' ∧ others ≠ [] then none
    else do
      let afterWhole := Remainder.skip Char.isDigit cs
      let (fraction, afterFraction) ← readFraction afterWhole.1
      let (exponent, rest) ← readExponent afterFraction.1
      some (⟨negative, first :: others, fraction, exponent⟩,
        afterWhole.trans (afterFraction.trans rest))

end Numeral

end ColumnQuery.Json
