/-!
# The shortest decimal of a double

A double stands for every real number that rounds to it. Of the decimals among
these the shortest is written, and of several of one length the nearest; a tie goes
to the larger. Each length is tried in turn: on the grid of decimals of that length
around the double only the neighbours below and above can be nearest.

Texts are in scientific form without a plus sign or a leading zero in the exponent,
and both zeros are written alike.

## Main definitions

* `Shortest.Span`: the reals that round to a positive double, as a scaled interval
* `Shortest.digits?`: the nearest decimal of a given length in the interval
* `scientific`: the text of a double
-/

namespace Loadout

namespace Shortest

/-- The reals that round to the double `value / scale`: from `low / scale` to `high / scale`,
with the ends themselves when `closed`. -/
structure Span where
  value : Nat
  low : Nat
  high : Nat
  scale : Nat
  closed : Bool

/-- The span of the double `m · 2 ^ q`. Below the least mantissa of a binade the gap is half. -/
def Span.ofBinary (m : Nat) (q : Int) (leastOfBinade : Bool) : Span :=
  let up := Nat.pow 2 q.toNat
  let scale := 4 * Nat.pow 2 (-q).toNat
  { value := 4 * m * up
    low := (4 * m - if leastOfBinade then 1 else 2) * up
    high := (4 * m + 2) * up
    scale := scale
    closed := m % 2 == 0 }

/-- Whether `n · 10 ^ e` rounds to the double. -/
def Span.holds (s : Span) (n : Nat) (e : Int) : Bool :=
  let x := n * Nat.pow 10 e.toNat * s.scale
  let down := Nat.pow 10 (-e).toNat
  if s.closed then
    s.low * down ≤ x && x ≤ s.high * down
  else
    s.low * down < x && x < s.high * down

/-- The power of ten of the first digit of `value / scale`. -/
def Span.leading (s : Span) : Int :=
  let estimate : Int := (Nat.toDigits 10 s.value).length - (Nat.toDigits 10 s.scale).length
  let reaches (e : Int) : Bool :=
    Nat.pow 10 e.toNat * s.scale ≤ s.value * Nat.pow 10 (-e).toNat
  if reaches estimate then estimate else estimate - 1

/-- The nearest decimal with `count` digits that rounds to the double, as a coefficient and a
power of ten. -/
def Span.digits? (s : Span) (count : Nat) : Option (Nat × Int) :=
  let e := s.leading + 1 - count
  let grid := Nat.pow 10 e.toNat * s.scale
  let x := s.value * Nat.pow 10 (-e).toNat
  let below := x / grid
  let rest := x % grid
  let nearUp := grid ≤ 2 * rest
  match s.holds below e, s.holds (below + 1) e with
  | true, true => some (if nearUp then below + 1 else below, e)
  | true, false => some (below, e)
  | false, true => some (below + 1, e)
  | false, false => none

/-- The shortest decimal that rounds to the double. Seventeen digits always suffice. -/
def Span.shortest (s : Span) : Nat × Int :=
  ((List.range 17).findSome? fun n => s.digits? (n + 1)).getD (0, 0)

/-- A coefficient without the zeros that end it, with its power of ten. -/
def stripZeros : Nat → Nat × Int → Nat × Int
  | 0, d => d
  | fuel + 1, (n, e) => if n % 10 = 0 then stripZeros fuel (n / 10, e + 1) else (n, e)

end Shortest

/-- A decimal in scientific form. -/
def scientificText (negative : Bool) (n : Nat) (e : Int) : String :=
  let digits := Nat.toDigits 10 n
  let fraction := digits.drop 1
  let exponent := e + fraction.length
  (if negative then "-" else "") ++ String.ofList (digits.take 1) ++
    (if fraction.isEmpty then "" else "." ++ String.ofList fraction) ++
    "e" ++ toString exponent

/-- The shortest text of a double, in scientific form. -/
def scientific (x : Float) : String :=
  let bits : Nat := x.toBits.toNat
  let negative := bits / Nat.pow 2 63 == 1
  let biased : Nat := bits / Nat.pow 2 52 % 2048
  let mantissa : Nat := bits % Nat.pow 2 52
  if biased = 2047 then
    if mantissa = 0 then (if negative then "-inf" else "inf") else "NaN"
  else if biased = 0 && mantissa = 0 then
    "0e0"
  else
    let span :=
      if biased = 0 then Shortest.Span.ofBinary mantissa (-1074) false
      else Shortest.Span.ofBinary (Nat.pow 2 52 + mantissa) ((biased : Int) - 1075)
        (mantissa == 0 && 1 < biased)
    let (n, e) := Shortest.stripZeros 17 span.shortest
    scientificText negative n e

end Loadout
