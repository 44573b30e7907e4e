import DeviceMemory.Toml.Lexical
import DeviceMemory.Toml.Value

/-!
# TOML: numbers, dates and times

A value that begins with a sign or a digit. Dates and times are recognised by the
mark after their first digits; a number is a floating-point number if a fraction
or an exponent follows its whole part. Whole numbers have 64 bits. A
floating-point number beyond the greatest finite one is refused, unless it is
negative.
-/

namespace DeviceMemory.Toml

/-- The value of a decimal digit. -/
def decimalDigit? (c : Char) : Option Nat :=
  if '0' ≤ c ∧ c ≤ '9' then some (c.toNat - '0'.toNat) else none

/-- The value of an octal digit. -/
def octalDigit? (c : Char) : Option Nat := (decimalDigit? c).filter (· < 8)

/-- The value of a binary digit. -/
def binaryDigit? (c : Char) : Option Nat := (decimalDigit? c).filter (· < 2)

/-! ### Runs of digits -/

/-- More digits, where an underscore may stand between two of them. -/
def moreDigits (digit? : Char → Option Nat) : List Char → Reading (List Char)
  | [] => some ([], [])
  | '_' :: c :: rest =>
    if (digit? c).isSome then (moreDigits digit? rest).cons c else none
  | ['_'] => none
  | c :: rest => if (digit? c).isSome then (moreDigits digit? rest).cons c else some ([], c :: rest)

/-- One digit or more. -/
def digits (digit? : Char → Option Nat) : List Char → Reading (List Char)
  | c :: rest => if (digit? c).isSome then (moreDigits digit? rest).cons c else none
  | [] => none

/-- The digits of a whole number in decimal notation, which has no leading zeros. -/
def wholePart : List Char → Reading (List Char)
  | '0' :: rest => some (['0'], rest)
  | s => digits decimalDigit? s

/-- A sign, if there is one: whether it is negative, and the rest. -/
def sign : List Char → Option Bool × List Char
  | '+' :: rest => (some false, rest)
  | '-' :: rest => (some true, rest)
  | s => (none, s)

/-! ### Whole numbers -/

/-- The greatest whole number. -/
def maxInteger : Nat := 0x7fffffffffffffff

/-- The whole number with a sign and a magnitude, if it has 64 bits. -/
def integerValue? (negative : Bool) (magnitude : Nat) : Option Value :=
  if negative then
    if magnitude ≤ maxInteger + 1 then some (.integer (-(magnitude : Int))) else none
  else if magnitude ≤ maxInteger then some (.integer magnitude) else none

/-- A whole number to another base, after the mark of the base. -/
def basedInteger (digit? : Char → Option Nat) (base : Nat) (s : List Char) : Reading Value :=
  (digits digit? s).bind fun ds =>
    (digitsValue? digit? base ds.1).bind fun n => (integerValue? false n).map fun v => (v, ds.2)

/-! ### Floating-point numbers -/

/-- The fraction after a point, without the point; empty if there is none. -/
def fraction : List Char → Reading (List Char)
  | '.' :: rest => digits decimalDigit? rest
  | s => some ([], s)

/-- The exponent, zero if there is none. -/
def exponent : List Char → Reading Int
  | c :: rest =>
    if c = 'e' ∨ c = 'E' then
      let (negative, rest) := sign rest
      (digits decimalDigit? rest).bind fun ds =>
        (digitsValue? decimalDigit? 10 ds.1).map fun n =>
          (if negative = some true then -(n : Int) else n, ds.2)
    else some (0, c :: rest)
  | [] => some (0, [])

/-- The least number that rounds beyond the greatest finite one. -/
def overflowBound : Nat := (1 <<< 1024) - (1 <<< 970)

/-- The number written with a one and `n` zeros. -/
def tenTo : Nat → Nat
  | 0 => 1
  | n + 1 => 10 * tenTo n

/-- Whether `mantissa` (of `length` digits) times ten to the power `e` rounds beyond the greatest
finite number. -/
def overflows (mantissa length : Nat) (e : Int) : Bool :=
  if mantissa = 0 then false
  else if e < 0 then
    if e.natAbs < length then overflowBound * tenTo e.natAbs ≤ mantissa else false
  else if 310 < e.natAbs then true
  else overflowBound ≤ mantissa * tenTo e.natAbs

/-- A number in decimal notation, after its sign. -/
def decimalNumber (negative : Option Bool) (s : List Char) : Reading Value :=
  (wholePart s).bind fun whole =>
    (fraction whole.2).bind fun frac =>
      (exponent frac.2).bind fun exp =>
        if exp.2.length = whole.2.length then
          (digitsValue? decimalDigit? 10 whole.1).bind fun n =>
            (integerValue? (negative = some true) n).map fun v => (v, whole.2)
        else
          let ds := whole.1 ++ frac.1
          (digitsValue? decimalDigit? 10 ds).bind fun mantissa =>
            if negative ≠ some true && overflows mantissa ds.length (exp.1 - frac.1.length) then none
            else some (.float (String.ofList (s.take (s.length - exp.2.length))), exp.2)

/-! ### Dates and times -/

/-- The number of exactly `n` decimal digits within bounds. -/
def field (n low high : Nat) (s : List Char) : Reading Nat :=
  if (s.take n).length = n then
    (digitsValue? decimalDigit? 10 (s.take n)).bind fun v =>
      if low ≤ v ∧ v ≤ high then some (v, s.drop n) else none
  else none

/-- The characters after a given one. -/
def expect (c : Char) : List Char → Option (List Char)
  | d :: rest => if c = d then some rest else none
  | [] => none

/-- The number of days in a month. -/
def daysIn (year month : Nat) : Nat :=
  if month = 2 then
    if year % 4 = 0 ∧ (year % 100 ≠ 0 ∨ year % 400 = 0) then 29 else 28
  else if month = 4 ∨ month = 6 ∨ month = 9 ∨ month = 11 then 30
  else 31

/-- What follows a date. -/
def date? (s : List Char) : Option (List Char) := do
  let (year, s) ← field 4 0 9999 s
  let s ← expect '-' s
  let (month, s) ← field 2 1 12 s
  let s ← expect '-' s
  let (_, s) ← field 2 1 (daysIn year month) s
  return s

/-- What follows a time of day. Seconds are required, a fraction of one is not. -/
def time? (s : List Char) : Option (List Char) := do
  let (_, s) ← field 2 0 23 s
  let s ← expect ':' s
  let (_, s) ← field 2 0 59 s
  let s ← expect ':' s
  let (_, s) ← field 2 0 60 s
  match s with
  | '.' :: c :: rest => if c.isDigit then some (rest.dropWhile Char.isDigit) else none
  | '.' :: [] => none
  | _ => some s

/-- What follows an offset from universal time, which may be missing. -/
def offset? (s : List Char) : Option (List Char) :=
  match s with
  | 'Z' :: rest => some rest
  | 'z' :: rest => some rest
  | c :: rest =>
    if c = '+' ∨ c = '-' then do
      let (_, rest) ← field 2 0 23 rest
      let rest ← expect ':' rest
      let (_, rest) ← field 2 0 59 rest
      return rest
    else some (c :: rest)
  | [] => some []

/-- Whether two digits and a colon stand first. -/
def startsTime (s : List Char) : Bool :=
  ((field 2 0 23 s).bind fun p => expect ':' p.2).isSome

/-- What follows a date and, after a mark, a time with an offset. A blank is a mark only if a time
follows it. -/
def dateTime? (s : List Char) : Option (List Char) := do
  let s ← date? s
  match s with
  | c :: rest =>
    if (c = 'T' ∨ c = 't' ∨ c = ' ') ∧ startsTime rest then time? rest >>= offset?
    else some s
  | [] => some s

/-- Whether four digits and a hyphen stand first. -/
def startsDate (s : List Char) : Bool :=
  ((field 4 0 9999 s).bind fun p => expect '-' p.2).isSome

/-! ### All of them -/

/-- The value written before what is left, as a date or time. -/
def asDateTime (s : List Char) (rest : Option (List Char)) : Reading Value :=
  rest.map fun r => (.dateTime (String.ofList (s.take (s.length - r.length))), r)

/-- A value that begins with a sign or a digit, or is infinite or no number. -/
def number? (s : List Char) : Reading Value :=
  if startsDate s then asDateTime s (dateTime? s)
  else if startsTime s then asDateTime s (time? s)
  else match s with
    | '0' :: 'x' :: rest => basedInteger hexDigit? 16 rest
    | '0' :: 'o' :: rest => basedInteger octalDigit? 8 rest
    | '0' :: 'b' :: rest => basedInteger binaryDigit? 2 rest
    | _ =>
      match sign s with
      | (_, 'i' :: 'n' :: 'f' :: rest) => some (.float "inf", rest)
      | (_, 'n' :: 'a' :: 'n' :: rest) => some (.float "nan", rest)
      | (negative, rest) => decimalNumber negative rest

end DeviceMemory.Toml
