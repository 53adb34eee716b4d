import ColumnQuery.Decimal.Binary64

/-! The shortest decimal that reads back as a given double. The reals that round to the double form
an interval; of the decimal grids with a point in it the coarsest is taken, and on that grid the
point nearest to the double. Everything is compared in exact natural numbers. -/
namespace ColumnQuery.Decimal

/-- A point of a decimal grid: `digits · 10 ^ exponent`. -/
structure GridPoint where
  digits : Nat
  exponent : Int
deriving DecidableEq, Inhabited

/-- Where the midpoint between two decimals goes. -/
inductive Tie
  | even
  | up
deriving DecidableEq

/-- The interval of magnitudes that round to one double, in units of a quarter of its last place
times `unit`: from `low` to `high` around `centre`, ends included or not. -/
structure Interval where
  low : Nat
  centre : Nat
  high : Nat
  closed : Bool
  unit : Nat × Nat

/-- The interval of a positive finite double. Its ends are the midpoints to its two neighbours, and
they round to it when its significand is even. -/
def Interval.of (x : Binary64) : Interval where
  low := 4 * x.significand - (if x.atBinadeStart then 1 else 2)
  centre := 4 * x.significand
  high := 4 * x.significand + 2
  closed := x.significand % 2 == 0
  unit := Binary64.powerRatio 2 (x.scale - 2)

/-- Whether `point · step` lies in the interval, `scale` being the interval's unit in the same
measure. -/
def Interval.holds (range : Interval) (step scale point : Nat) : Bool :=
  if range.closed then range.low * scale ≤ point * step && point * step ≤ range.high * scale
  else range.low * scale < point * step && point * step < range.high * scale

/-- The point of the grid of multiples of `10 ^ exponent` that stands for the interval's centre: of
the two around it that lie in the interval the nearer, none if neither does. -/
def Interval.pointOnGrid? (range : Interval) (tie : Tie) (exponent : Int) : Option Nat :=
  let power := Binary64.powerRatio 10 exponent
  let step := power.1 * range.unit.2
  let scale := range.unit.1 * power.2
  let below := range.centre * scale / step
  let fromBelow := range.centre * scale - below * step
  let fromAbove := (below + 1) * step - range.centre * scale
  match range.holds step scale below, range.holds step scale (below + 1) with
  | true, false => some below
  | false, true => some (below + 1)
  | false, false => none
  | true, true =>
    if fromBelow < fromAbove then some below
    else if fromAbove < fromBelow then some (below + 1)
    else match tie with
      | .up => some (below + 1)
      | .even => some (below + below % 2)

/-- The first of the grids `10 ^ exponent`, `10 ^ (exponent - 1)`, … with a point in the interval,
over as many grids as `count` says. -/
def Interval.search (range : Interval) (tie : Tie) : Nat → Int → GridPoint
  | 0, exponent => ⟨0, exponent⟩
  | count + 1, exponent =>
    match range.pointOnGrid? tie exponent with
    | some digits => ⟨digits, exponent⟩
    | none => range.search tie count (exponent - 1)

/-- The shortest decimal that reads back as the magnitude of a finite double. No double is as large
as the first grid's step, and the last grid is finer than every interval. -/
def shortest (tie : Tie) (x : Binary64) : GridPoint :=
  if x.significand = 0 then ⟨0, 0⟩ else (Interval.of x).search tie 634 309

end ColumnQuery.Decimal
