import RouteTable.Text.Rest
import RouteTable.Toml.Value

namespace RouteTable.Toml.Scalar

def digits? (isDigit : Char → Bool) (s : Text) : Option Text :=
  let groups := Text.splitAt '_' s
  if groups.all fun group => !group.isEmpty && group.all isDigit then some groups.flatten else none

def decimal? (s : Text) : Option Text := do
  let digits ← digits? Char.isDigit s
  if 1 < digits.length && digits.head? = some '0' then none
  return digits

def fitsWord (n : Int) : Bool := -0x8000000000000000 ≤ n && n < 0x8000000000000000

def sign (s : Text) : Option Char × Text :=
  match s with
  | '+' :: rest => (some '+', rest)
  | '-' :: rest => (some '-', rest)
  | s => (none, s)

def based? (base : Nat) (isDigit : Char → Bool) (s : Text) : Option Int :=
  (digits? isDigit s).map fun digits => (Text.numberValue base digits : Int)

-- Integers are signed words of 64 bits.
def integer? (s : Text) : Option Int := do
  let value ← match s with
    | '0' :: 'x' :: rest => based? 16 Text.isHexDigit rest
    | '0' :: 'o' :: rest => based? 8 (fun c => '0' ≤ c && c ≤ '7') rest
    | '0' :: 'b' :: rest => based? 2 (fun c => c == '0' || c == '1') rest
    | s =>
      let (sign, numeral) := sign s
      (decimal? numeral).map fun digits =>
        let size : Int := Text.numberValue 10 digits
        if sign = some '-' then -size else size
  if fitsWord value then return value else none

-- Half a unit above the largest double: from here on a numeral rounds to infinity.
def doubleLimit : Nat := 1 <<< 1024 - 1 <<< 970

-- Whether `mantissa`, moved by `exponent` decimal places, rounds to infinity. The number of digits
-- settles it unless the value has exactly 309 of them.
def overflows (mantissa : Nat) (exponent : Int) : Bool :=
  let length : Int := (Nat.toDigits 10 mantissa).length + exponent
  if mantissa = 0 || length < 309 then false
  else if 309 < length then true
  else doubleLimit * Nat.pow 10 (-exponent).toNat ≤ mantissa * Nat.pow 10 exponent.toNat

def exponent? (s : Text) : Option Int :=
  let (sign, numeral) := sign s
  (digits? Char.isDigit numeral).map fun digits =>
    let size : Int := Text.numberValue 10 digits
    if sign = some '-' then -size else size

-- A number with a fraction, an exponent or both. A positive one has to be finite.
def isFloat (s : Text) : Bool :=
  let (sign, numeral) := sign s
  if numeral = "inf".toList || numeral = "nan".toList then true
  else
    let significand := numeral.takeWhile fun c => c != 'e' && c != 'E'
    let power := (numeral.drop significand.length).drop 1
    let whole := significand.takeWhile (· != '.')
    let fraction := (significand.drop whole.length).drop 1
    let pointed := whole.length < significand.length
    let scaled := significand.length < numeral.length
    match decimal? whole, (if pointed then digits? Char.isDigit fraction else some []),
        (if scaled then exponent? power else some 0) with
    | some whole, some fraction, some power =>
      (pointed || scaled) && (sign = some '-' ||
        !overflows (Text.numberValue 10 (whole ++ fraction)) (power - fraction.length))
    | _, _, _ => false

def field? (count low high : Nat) (s : Text) : Option Nat :=
  let value := Text.numberValue 10 s
  if s.length = count && s.all Char.isDigit && low ≤ value && value ≤ high then some value
  else none

def isLeapYear (year : Nat) : Bool := year % 4 = 0 && (year % 100 ≠ 0 || year % 400 = 0)

def daysIn (year month : Nat) : Nat :=
  if month = 2 then (if isLeapYear year then 29 else 28)
  else if month = 4 || month = 6 || month = 9 || month = 11 then 30
  else 31

def isDate (s : Text) : Bool :=
  match Text.splitAt '-' s with
  | [year, month, day] =>
    match field? 4 0 9999 year, field? 2 1 12 month with
    | some y, some m => (field? 2 1 (daysIn y m) day).isSome
    | _, _ => false
  | _ => false

def isHourAndMinute (hour minute : Text) : Bool :=
  (field? 2 0 23 hour).isSome && (field? 2 0 59 minute).isSome

-- Digits after the ninth place of a second are dropped, and then the zeros at the end.
def shownFraction (digits : Text) : Text :=
  let shown := Text.dropWhileEnd (· == '0') (digits.take 9)
  if shown.isEmpty then [] else '.' :: shown

-- The time of a day. A second may be a leap second.
def time? (s : Text) : Option Text :=
  let clock := s.takeWhile (· != '.')
  let fraction := (s.drop clock.length).drop 1
  match Text.splitAt ':' clock with
  | [hour, minute, second] =>
    if isHourAndMinute hour minute && (field? 2 0 60 second).isSome then
      if clock.length = s.length then some clock
      else if fraction.isEmpty || !fraction.all Char.isDigit then none
      else some (clock ++ shownFraction fraction)
    else none
  | _ => none

def zonedTime? (s : Text) : Option Text :=
  let clock := s.takeWhile fun c => c == ':' || c == '.' || c.isDigit
  match s.drop clock.length with
  | [] => time? clock
  | [zone] => if zone = 'Z' || zone = 'z' then (time? clock).map (· ++ ['Z']) else none
  | sign :: zone =>
    match Text.splitAt ':' zone with
    | [hour, minute] =>
      if (sign = '+' || sign = '-') && isHourAndMinute hour minute then
        let shown := if zone = "00:00".toList then '+' else sign
        (time? clock).map fun time => time ++ shown :: zone
      else none
    | _ => none

def moment? (s : Text) : Option Text :=
  let date := s.take 10
  if isDate date then
    match s.drop 10 with
    | [] => some date
    | separator :: time =>
      if separator = 'T' || separator = 't' || separator = ' ' then
        (zonedTime? time).map fun time => date ++ 'T' :: time
      else none
  else time? s

def isTokenChar (c : Char) : Bool :=
  c.isAlphanum || c == '+' || c == '-' || c == '_' || c == '.' || c == ':'

def token (s : Text) : Text :=
  let first := s.takeWhile isTokenChar
  match s.drop first.length with
  | ' ' :: digit :: rest =>
    if isDate first && digit.isDigit then first ++ ' ' :: (digit :: rest).takeWhile isTokenChar
    else first
  | _ => first

def ofToken? (s : Text) : Option Value :=
  if s = "true".toList then some (.boolean true)
  else if s = "false".toList then some (.boolean false)
  else match moment? s with
    | some moment => some (.moment moment)
    | none => match integer? s with
      | some value => some (.integer value)
      | none => if isFloat s then some (.float s) else none

end RouteTable.Toml.Scalar
