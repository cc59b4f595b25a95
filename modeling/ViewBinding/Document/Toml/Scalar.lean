import ViewBinding.Document.Json
import ViewBinding.Text.Segments

/-!
# Scalars of TOML

Numbers, truth values, dates and times. A word is a scalar if it has the outline of one. A number
whose outline is right may still have no value, because it is out of range or because it has
letters among its digits; its document is then unreadable.
-/

namespace ViewBinding.Toml

open Text

/-- The sign of a number, true where it is negative, and the rest. -/
def splitSign (cs : List Char) : Bool × List Char :=
  match cs with
  | '-' :: rest => (true, rest)
  | '+' :: rest => (false, rest)
  | _ => (false, cs)

/-- The text without its underscores. -/
def ungroup (cs : List Char) : List Char :=
  cs.filter (· != '_')

/-- The last character is there and in the class. -/
def endsWith (isDigit : Char → Bool) (cs : List Char) : Bool :=
  cs.getLast?.any isDigit

/-- The first character is there and in the class. -/
def beginsWith (isDigit : Char → Bool) (cs : List Char) : Bool :=
  cs.head?.any isDigit

/-- The pieces after the first underscore: each begins with a digit, and all but the last end with
one. -/
def areGroups (isDigit : Char → Bool) : List (List Char) → Bool
  | [] => true
  | [piece] => beginsWith isDigit piece
  | piece :: rest => beginsWith isDigit piece && endsWith isDigit piece && areGroups isDigit rest

/-- Each underscore stands between two digits. -/
def isGrouped (isDigit : Char → Bool) (cs : List Char) : Bool :=
  match segments '_' cs with
  | [] | [_] => true
  | piece :: rest => endsWith isDigit piece && areGroups isDigit rest

/-! ## Integers -/

/-- An integer that fits 64 bits, with or without sign, has a value. -/
def bounded (n : Int) : Document :=
  if -0x8000000000000000 ≤ n && n < 0x10000000000000000 then .integer n else .unreadable

/-- A hexadecimal digit. -/
def isHexDigit (c : Char) : Bool :=
  (Document.hexValue? c).isSome

/-- The integer written in a base, whose digits may be missing altogether. -/
def baseInteger? (base : Nat) (isDigit : Char → Bool) (cs : List Char) : Option Document :=
  let groups := segments '_' cs
  if cs.isEmpty then some .unreadable
  else if groups.all fun group => !group.isEmpty && group.all isDigit then
    let digits := groups.flatten.filterMap Document.hexValue?
    some (bounded (digits.foldl (fun n d => base * n + d) 0 : Nat))
  else none

/-- The decimal integer of a word without its underscores. -/
def decimalInteger (word : List Char) : Document :=
  let (negative, digits) := splitSign (ungroup word)
  if digits.all Char.isDigit then
    let n : Int := Document.decimalNumber digits
    bounded (if negative then -n else n)
  else .unreadable

/-! ## Numbers with a point or a power of ten -/

/-- A double in a message: a tie goes up, and all digits are written out. -/
def realLayout : Decimal.Layout where
  tie := .up
  positional _ := true

/-- The nearest double to `digits * 10 ^ exponent`, if it is finite. -/
def double? (digits : List Char) (exponent : Int) : Option Float :=
  let digits := digits.dropWhile (· == '0')
  let n := Document.decimalNumber digits
  let top : Int := digits.length + exponent
  if n = 0 || top < -400 then some 0.0
  else if 400 < top then none
  else
    let x := Float.ofScientific n (exponent < 0) exponent.natAbs
    if x.isInf then none else some x

/-- The digits at the start of a text, among which underscores may stand, and the rest; there has to
be a digit. -/
def looseDigits? (cs : List Char) : Option (List Char × List Char) :=
  let (digits, rest) := cs.span fun c => c.isDigit || c == '_'
  if (ungroup digits).isEmpty then none else some (ungroup digits, rest)

/-- The digits after a point, if there is one, and the rest. -/
def looseFraction? : List Char → Option (List Char × List Char)
  | '.' :: rest => looseDigits? rest
  | cs => some ([], cs)

/-- The power of ten after an `e`, if there is one, and the rest. -/
def loosePower? (cs : List Char) : Option (Int × List Char) :=
  match cs with
  | c :: rest =>
    if c == 'e' || c == 'E' then do
      let (negative, rest) := splitSign rest
      let (digits, rest) ← looseDigits? rest
      let n : Int := Document.decimalNumber digits
      return (if negative then -n else n, rest)
    else some (0, cs)
  | [] => some (0, cs)

/-- The real number of a word, given with and without its sign. -/
def real? (word unsigned : List Char) : Option Document := do
  let (negative, _) := splitSign word
  let (whole, rest) ← looseDigits? unsigned
  let (fraction, rest) ← looseFraction? rest
  let (power, rest) ← loosePower? rest
  let zeroLed := unsigned.head? == some '0' && 1 < whole.length
  if zeroLed || !rest.isEmpty || !isGrouped Char.isDigit word then none
  else
    match double? (whole ++ fraction) (power - fraction.length) with
    | some x => some (.real (realLayout.showDouble (if negative then -x else x)))
    | none => some .unreadable

/-! ## Dates and times -/

/-- The number of exactly `n` digits, and the rest. -/
def fixedDigits? (n : Nat) (cs : List Char) : Option (Nat × List Char) :=
  let digits := cs.take n
  if digits.length = n && digits.all Char.isDigit then
    some (Document.decimalNumber digits, cs.drop n)
  else none

/-- The rest after a character that has to be there. -/
def expect? (c : Char) : List Char → Option (List Char)
  | d :: rest => if c = d then some rest else none
  | [] => none

/-- The number of days in a month. -/
def daysIn (year month : Nat) : Nat :=
  if month = 2 then
    if year % 4 = 0 && (year % 100 != 0 || year % 400 = 0) then 29 else 28
  else if [4, 6, 9, 11].contains month then 30
  else 31

/-- What follows a date. -/
def afterDate? (cs : List Char) : Option (List Char) := do
  let (year, cs) ← fixedDigits? 4 cs
  let (month, cs) ← fixedDigits? 2 (← expect? '-' cs)
  let (day, cs) ← fixedDigits? 2 (← expect? '-' cs)
  if 1 ≤ month && month ≤ 12 && 1 ≤ day && day ≤ daysIn year month then some cs else none

/-- What follows the fraction of a second, if there is one. -/
def afterFraction? : List Char → Option (List Char)
  | '.' :: rest =>
    if (rest.takeWhile Char.isDigit).isEmpty then none else some (rest.dropWhile Char.isDigit)
  | cs => some cs

/-- What follows a time, whose seconds may be left out. -/
def afterTime? (cs : List Char) : Option (List Char) := do
  let (hour, cs) ← fixedDigits? 2 cs
  let (minute, cs) ← fixedDigits? 2 (← expect? ':' cs)
  if hour ≤ 23 && minute ≤ 59 then
    match cs with
    | ':' :: rest =>
      let (second, rest) ← fixedDigits? 2 rest
      if second ≤ 60 then afterFraction? rest else none
    | _ => some cs
  else none

/-- Nothing, or an offset from universal time, to the end. -/
def isOffset (cs : List Char) : Bool :=
  match cs with
  | [] | ['Z'] | ['z'] => true
  | c :: rest =>
    (c == '+' || c == '-') &&
      ((do
        let (hour, rest) ← fixedDigits? 2 rest
        let (minute, rest) ← fixedDigits? 2 (← expect? ':' rest)
        return decide (hour ≤ 23) && decide (minute ≤ 59) && rest.isEmpty).getD false)

/-- A date, a time, or both. -/
def isMoment (cs : List Char) : Bool :=
  match afterDate? cs with
  | some [] => true
  | some (c :: rest) =>
    (c == 'T' || c == 't' || c == ' ') && ((afterTime? rest).map isOffset).getD false
  | none => afterTime? cs == some []

/-! ## Words -/

/-- The number, date or time of a word, given with and without its sign. What follows the first
digits decides which of them it can be. -/
def numeric? (word unsigned : List Char) : Option Document :=
  let zeroLed := unsigned.head? == some '0'
  match unsigned.dropWhile Char.isDigit with
  | [] => if zeroLed && 1 < unsigned.length then none else some (decimalInteger word)
  | c :: rest =>
    if c == '-' || c == ':' then
      if isMoment word then some (.moment (String.ofList word)) else none
    else if (c :: rest).contains ' ' then none
    else if (c :: rest).any (['.', 'e', 'E'].contains ·) then real? word unsigned
    else if c == '_' && !zeroLed && isGrouped isHexDigit word then some (decimalInteger word)
    else none

/-- The document of a word. -/
def scalar? (word : List Char) : Option Document :=
  let (negative, unsigned) := splitSign word
  if word = "true".toList then some (.boolean true)
  else if word = "false".toList then some (.boolean false)
  else if unsigned = "inf".toList then some (.real (if negative then "-inf" else "inf"))
  else if unsigned = "nan".toList then some (.real "NaN")
  else
    match word with
    | '0' :: 'x' :: rest => baseInteger? 16 isHexDigit rest
    | '0' :: 'o' :: rest => baseInteger? 8 (fun c => '0' ≤ c && c ≤ '7') rest
    | '0' :: 'b' :: rest => baseInteger? 2 (fun c => c == '0' || c == '1') rest
    | _ =>
      match unsigned with
      | c :: _ => if c.isDigit then numeric? word unsigned else none
      | [] => none

end ViewBinding.Toml
