/-!
# Shortest decimal texts of floating point numbers

A double is written with the fewest decimal digits that read back as the same double, and of
those with the nearest. A layout says which way a tie between two nearest goes, and which numbers
are written with a power of ten.

The number is split into `m * 2 ^ q`. The reals that round to it lie in an interval around it,
whose ends belong to it where `m` is even. On the grid of `n` digits only the two neighbours of the
number can be the answer, so the first `n` with a neighbour in the interval is the least.
-/

namespace ViewBinding.Decimal

/-- A positive double as `mantissa * 2 ^ exponent`. At the low edge of its power of two, the next
double below is only half as far as the next one above. -/
structure Binary where
  mantissa : Nat
  exponent : Int
  lowEdge : Bool
  deriving DecidableEq, Repr

/-- The parts of a positive finite double, by its bits. -/
def Binary.ofBits (bits : Nat) : Binary :=
  let fraction : Nat := bits % 0x10000000000000
  let biased : Nat := bits / 0x10000000000000 % 0x800
  -- Only the numbers next to zero have no leading one besides their fraction.
  if biased = 0 then ⟨fraction, -1074, false⟩
  else ⟨fraction + 0x10000000000000, (biased : Int) - 1075, fraction = 0 && 1 < biased⟩

/-- Decimal digits with a power of ten. -/
structure Digits where
  digits : Nat
  exponent : Int
  deriving DecidableEq, Repr

/-- The same number without zeros at the end of its digits, of which at most `fuel` are dropped. -/
def Digits.dropZeros (d : Digits) : Nat → Digits
  | 0 => d
  | fuel + 1 =>
    if d.digits % 10 = 0 then Digits.dropZeros ⟨d.digits / 10, d.exponent + 1⟩ fuel else d

/-- `x / y` as a quotient of naturals where `x = n * 2 ^ a` and `y = 10 ^ b`. -/
def ratio (n : Nat) (a b : Int) : Nat × Nat :=
  (n * Nat.pow 2 a.toNat * Nat.pow 10 (-b).toNat, Nat.pow 2 (-a).toNat * Nat.pow 10 b.toNat)

/-- The least `k` with `m * 2 ^ q < 10 ^ k`, searched upwards from a start. -/
def magnitude (m : Nat) (q : Int) (start : Int) : Nat → Int
  | 0 => start
  | fuel + 1 =>
    let (num, den) := ratio m q start
    if num < den then start else magnitude m q (start + 1) fuel

/-- A point of the grid `10 ^ e`, given by its index, rounds to the number. -/
def Binary.accepts (b : Binary) (e : Int) (index : Nat) : Bool :=
  -- In quarters of the last binary place, so that half a step up or down is whole, and so is half
  -- of the smaller step below a power of two.
  let q := b.exponent - 2
  let low := 4 * b.mantissa - (if b.lowEdge then 1 else 2)
  let high := 4 * b.mantissa + 2
  let (lowNum, den) := ratio low q e
  let (highNum, _) := ratio high q e
  let point := index * den
  if b.mantissa % 2 = 0 then lowNum ≤ point && point ≤ highNum
  else lowNum < point && point < highNum

/-- Where a number goes that lies halfway between two neighbours on a grid. -/
inductive Tie where
  | toEven
  | up
  deriving DecidableEq, Repr

/-- The lower neighbour, given by its index, takes a tie. -/
def Tie.takesLower (tie : Tie) (index : Nat) : Bool :=
  match tie with
  | .toEven => index % 2 = 0
  | .up => false

/-- The nearer of the two neighbours on a grid that rounds to the number. -/
def Binary.onGrid? (b : Binary) (tie : Tie) (e : Int) : Option Digits :=
  let (num, den) := ratio b.mantissa b.exponent e
  let below := num / den
  let twice := 2 * (num % den)
  let low := b.accepts e below && 0 < below
  let high := b.accepts e (below + 1)
  if low && (!high || twice < den || (twice = den && tie.takesLower below)) then some ⟨below, e⟩
  else if high then some ⟨below + 1, e⟩
  else none

/-- The first grid with a hit, from `n` digits on. -/
def Binary.search (b : Binary) (tie : Tie) (top : Int) (n : Nat) : Nat → Digits
  | 0 => ⟨b.mantissa, 0⟩
  | fuel + 1 =>
    match b.onGrid? tie (top - n) with
    | some found => found
    | none => b.search tie top (n + 1) fuel

/-- The shortest digits of a positive finite double. -/
def Binary.shortest (b : Binary) (tie : Tie) : Digits :=
  (b.search tie (magnitude b.mantissa b.exponent (-324) 640) 1 17).dropZeros 17

/-- Digits with their decimal point, or the zeros before it, written out. -/
def placePoint (digits : List Char) (exponent : Int) : List Char :=
  if 0 ≤ exponent then digits ++ List.replicate exponent.toNat '0' ++ ['.', '0']
  else
    let places := (-exponent).toNat
    if places < digits.length then
      digits.take (digits.length - places) ++ '.' :: digits.drop (digits.length - places)
    else '0' :: '.' :: List.replicate (places - digits.length) '0' ++ digits

/-- How doubles are written. `positional` says of a number, by the power of ten of its first digit,
that its digits are all written out. -/
structure Layout where
  tie : Tie
  positional : Int → Bool

/-- Digits with a power of ten after them, and a point after the first if there are more. -/
def scientific (digits : List Char) (power : Int) : List Char :=
  let sign := if 0 ≤ power then '+' else '-'
  let tail := 'e' :: sign :: (toString power.natAbs).toList
  match digits with
  | [] => tail
  | [c] => c :: tail
  | c :: rest => c :: '.' :: rest ++ tail

/-- Digits times a power of ten as a layout has them. -/
def Layout.place (layout : Layout) (d : Digits) : List Char :=
  let digits := (toString d.digits).toList
  let power := d.exponent + (digits.length - 1 : Nat)
  if layout.positional power then placePoint digits d.exponent else scientific digits power

/-- The text of a double: `NaN`, `inf`, or a decimal with a point or a power of ten. -/
def Layout.showDouble (layout : Layout) (x : Float) : String :=
  let bits := x.toBits.toNat
  let sign := if 0x8000000000000000 ≤ bits then "-" else ""
  let bits := bits % 0x8000000000000000
  if bits = 0 then sign ++ "0.0"
  else if bits / 0x10000000000000 = 0x7FF then
    if bits % 0x10000000000000 = 0 then sign ++ "inf" else "NaN"
  else sign ++ String.ofList (layout.place ((Binary.ofBits bits).shortest layout.tie))

end ViewBinding.Decimal
