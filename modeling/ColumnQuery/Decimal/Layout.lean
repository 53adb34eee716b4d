import ColumnQuery.Decimal.Shortest

/-! How a double is laid out as text: where its point stands, when an exponent is written, and what
marks a whole number. The digits are always the shortest that read back. -/
namespace ColumnQuery.Decimal

/-- The choices of one number format. With `n` digits before the point (`-n` zeros after it), a
number is written positionally when `fewest < n ≤ most`, and always when there are no limits. A
positive exponent may have a mark before it. -/
structure Layout where
  tie : Tie
  limits : Option (Int × Int)
  wholeMark : String
  exponentMark : String

/-- `n` zeros. -/
def zeros (n : Int) : String :=
  String.ofList (List.replicate n.toNat '0')

/-- The digits with the point after the first `point` of them. -/
def Layout.positional (layout : Layout) (digits : String) (point : Int) : String :=
  if point ≤ 0 then "0." ++ zeros (-point) ++ digits
  else if digits.length ≤ point then digits ++ zeros (point - digits.length) ++ layout.wholeMark
  else
    String.ofList (digits.toList.take point.toNat) ++ "." ++
      String.ofList (digits.toList.drop point.toNat)

/-- The digits with the point after the first, and the power of ten that this leaves. -/
def Layout.scientific (layout : Layout) (digits : String) (point : Int) : String :=
  let exponent := "e" ++ (if 1 < point then layout.exponentMark else "") ++ toString (point - 1)
  match digits.toList with
  | first :: next :: rest => String.ofList (first :: '.' :: next :: rest) ++ exponent
  | _ => digits ++ exponent

/-- The text of a finite double. -/
def Layout.text (layout : Layout) (x : Binary64) : String :=
  let decimal := shortest layout.tie x
  let digits := toString decimal.digits
  let point : Int := digits.length + decimal.exponent
  let magnitude :=
    match layout.limits with
    | none => layout.positional digits point
    | some (fewest, most) =>
      if fewest < point && point ≤ most then layout.positional digits point
      else layout.scientific digits point
  if x.negative then "-" ++ magnitude else magnitude

/-- Numbers in statements: positional from `0.00001` up to sixteen digits before the
point, a whole number marked by `.0`, a tie to the even digit. -/
def compact : Layout where
  tie := .even
  limits := some (-5, 16)
  wholeMark := ".0"
  exponentMark := ""

/-- Numbers inside a pattern: never an exponent and no mark on a whole number. -/
def plain : Layout where
  tie := .up
  limits := none
  wholeMark := ""
  exponentMark := ""

/-- The plain text of any double, with words for the ones that are no numbers. -/
def plainText (x : Binary64) : String :=
  if x.isNaN then "NaN"
  else if x.isFinite then plain.text x
  else if x.negative then "-inf" else "inf"

end ColumnQuery.Decimal
