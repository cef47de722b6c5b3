import FleetAgent.Number.Binary64

/-!
# Shortest decimal text

The text of a floating-point number has the fewest digits that read back as the same number, and among
those the nearest to it. The search goes through the grids of the powers of ten from the coarse to the
fine ones; on each grid only the two neighbours of the number can be meant.
-/

namespace FleetAgent.Number

/-- The numbers that round to a given one lie within half a step of it; all are given in quarters of a
step, and a step is `2 ^ exponent`. -/
structure Vicinity where
  centre : Nat
  low : Nat
  high : Nat
  /-- Both ends round to the number, too. -/
  closed : Bool
  exponent : Int

def vicinity (parts : Parts) : Vicinity :=
  let m := parts.significand
  let narrow := m = Nat.pow 2 52 ∧ -1074 < parts.exponent
  ⟨4 * m, if narrow then 4 * m - 1 else 4 * m - 2, 4 * m + 2, m % 2 = 0, parts.exponent - 2⟩

namespace Vicinity

/-- The factors that bring quarters of a step and units of the grid of a power of ten to one scale. -/
def scales (v : Vicinity) (power : Int) : Nat × Nat :=
  (Nat.pow 2 v.exponent.toNat * Nat.pow 10 (-power).toNat,
    Nat.pow 2 (-v.exponent).toNat * Nat.pow 10 power.toNat)

/-- The grid's point rounds to the number. -/
def has (v : Vicinity) (power : Int) (point : Nat) : Bool :=
  let (step, unit) := v.scales power
  if v.closed then v.low * step ≤ point * unit && point * unit ≤ v.high * step
  else v.low * step < point * unit && point * unit < v.high * step

/-- The point of the grid that is nearest to the number, of those that round to it. -/
def point? (v : Vicinity) (power : Int) : Option Nat :=
  let (step, unit) := v.scales power
  let below := v.centre * step / unit
  match v.has power below, v.has power (below + 1) with
  | true, true =>
    let rest := 2 * (v.centre * step % unit)
    some (if rest < unit ∨ (rest = unit ∧ below % 2 = 0) then below else below + 1)
  | true, false => some below
  | false, true => some (below + 1)
  | false, false => none

/-- The first of so many grids, each ten times as fine as the one before, that has a point. -/
def search (v : Vicinity) : Nat → Int → Decimal
  | 0, power => ⟨0, power⟩
  | grids + 1, power =>
    match v.point? power with
    | some point => if point = 0 then v.search grids (power - 1) else ⟨point, power⟩
    | none => v.search grids (power - 1)

end Vicinity

/-- The shortest decimal for the size of a number. -/
def shortest (parts : Parts) : Decimal :=
  if parts.significand = 0 then ⟨0, 0⟩
  else
    let size : Int := Nat.log2 parts.significand + parts.exponent
    (vicinity parts).search 24 (size * 30103 / 100000 + 2)

/-- The digits of a decimal with a point after so many of them; zeros stand where there are none. -/
def pointed (digits : List Char) (point : Int) : List Char :=
  if point ≤ 0 then '0' :: '.' :: List.replicate (-point).toNat '0' ++ digits
  else
    let n := point.toNat
    let whole := digits.take n ++ List.replicate (n - digits.length) '0'
    let fraction := digits.drop n
    whole ++ '.' :: (if fraction.isEmpty then ['0'] else fraction)

/-- How numbers are written beyond the digits. -/
structure Notation where
  /-- Numbers of at least this power of ten have an exponent. -/
  above : Option Int
  /-- Numbers below this power of ten have an exponent. -/
  below : Option Int
  infinity : String
  nan : String

def withExponent (digits : List Char) (power : Int) : List Char :=
  let fraction := digits.drop 1
  let sign := if power < 0 then '-' else '+'
  digits.take 1 ++ (if fraction.isEmpty then [] else '.' :: fraction) ++
    'e' :: sign :: Nat.toDigits 10 power.natAbs

def text (style : Notation) (x : Float) : String :=
  match parts? x with
  | none =>
    if x.isNaN then style.nan else if x < 0 then "-" ++ style.infinity else style.infinity
  | some parts =>
    let decimal := shortest parts
    let digits := Nat.toDigits 10 decimal.digits
    let point := decimal.exponent + digits.length
    let scientific := decimal.digits ≠ 0 ∧
      (style.above.any (fun limit ↦ limit < point) ∨ style.below.any (fun limit ↦ point ≤ limit))
    let size := if scientific then withExponent digits (point - 1) else pointed digits point
    String.ofList (if parts.negative then '-' :: size else size)

end FleetAgent.Number
