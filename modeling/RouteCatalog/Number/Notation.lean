import RouteCatalog.Number.Binary64

/-!
# Writing floating-point numbers

A notation says which decimal exponents are written with a point only, how the exponent of the
others is written, and what stands for values that are no decimals. The digits are always the
shortest that read back.
-/

namespace RouteCatalog

/-- How floating-point numbers are written. -/
structure FloatNotation where
  /-- The least decimal exponent written with a point only. -/
  leastPositional : Int
  /-- The least decimal exponent above those written with a point only. -/
  firstScientific : Int
  /-- The least number of digits of a written exponent. -/
  exponentWidth : Nat
  infinity : Text
  negativeInfinity : Text
  notANumber : Text

namespace FloatNotation

/-- Digits with a point: at least one digit before and one after it. -/
def positional (digits : Text) (exponent : Int) : Text :=
  if exponent < 0 then
    "0.".toList ++ List.replicate (-exponent - 1).toNat '0' ++ digits
  else
    let places := exponent.toNat + 1
    let whole := digits.take places ++ List.replicate (places - digits.length) '0'
    let fraction := digits.drop places
    whole ++ '.' :: (if fraction.isEmpty then ['0'] else fraction)

/-- Digits with a point after the first, and a signed exponent. -/
def scientific (width : Nat) (digits : Text) (exponent : Int) : Text :=
  let significand :=
    match digits with
    | first :: second :: rest => first :: '.' :: second :: rest
    | few => few
  let power := natText exponent.natAbs
  significand ++ 'e' :: (if exponent < 0 then '-' else '+') ::
    (List.replicate (width - power.length) '0' ++ power)

/-- Write a value. -/
def write (style : FloatNotation) : Binary64 → Text
  | .notANumber => style.notANumber
  | .infinite negative => if negative then style.negativeInfinity else style.infinity
  | .finite negative significand exponent =>
    let sign := if negative then ['-'] else []
    if significand = 0 then sign ++ "0.0".toList
    else
      let (index, grid) := Binary64.shortest significand exponent
      let digits := natText index
      let power : Int := grid + digits.length - 1
      sign ++
        if style.leastPositional ≤ power ∧ power < style.firstScientific then
          positional digits power
        else scientific style.exponentWidth digits power

end FloatNotation

/-- Values in descriptions: a point only from 10 ^ -4 up to 10 ^ 16. -/
def displayNotation : FloatNotation :=
  ⟨-4, 16, 2, "inf".toList, "-inf".toList, "nan".toList⟩

/-- Values in example payloads; what JSON cannot write has a name of its own. -/
def payloadNotation : FloatNotation :=
  ⟨-4, 16, 2, "Infinity".toList, "-Infinity".toList, "NaN".toList⟩

/-- Values in catalog documents: a point only from 10 ^ -5 up to 10 ^ 16, and `null` for what JSON
cannot write. -/
def documentNotation : FloatNotation :=
  ⟨-5, 16, 1, "null".toList, "null".toList, "null".toList⟩

end RouteCatalog
