import Conlang.Text.CharSet

/-! The numbers and dates of TOML. -/
namespace Conlang.Toml
open Text

/-- Digits, which single underscores may separate, behind the first one. -/
def moreDigits (isDigit : Char → Bool) : List Char → List Char × List Char
  | '_' :: c :: rest =>
    if isDigit c then
      let (digits, rest) := moreDigits isDigit rest
      (c :: digits, rest)
    else ([], '_' :: c :: rest)
  | c :: rest =>
    if isDigit c then
      let (digits, rest) := moreDigits isDigit rest
      (c :: digits, rest)
    else ([], c :: rest)
  | [] => ([], [])

/-- At least one digit. -/
def digits? (isDigit : Char → Bool) : List Char → Option (List Char × List Char)
  | c :: rest =>
    if isDigit c then
      let (digits, rest) := moreDigits isDigit rest
      some (c :: digits, rest)
    else none
  | [] => none

def number (base : Nat) (digits : List Char) : Nat :=
  digits.foldl (fun n c => n * base + (CharSet.hexDigit? c).getD 0) 0

/-- A minus sign at the front, and the text behind a sign. -/
def sign : List Char → Bool × List Char
  | '+' :: rest => (false, rest)
  | '-' :: rest => (true, rest)
  | s => (false, s)

/-! ### Integers -/

/-- Decimal digits without a leading zero. -/
def decimalDigits? : List Char → Option (List Char × List Char)
  | '0' :: rest => some (['0'], rest)
  | s => digits? Char.isDigit s

def maxInteger : Nat := Nat.pow 2 63 - 1

/-- A number with a mark for its base. -/
def markedInteger? : List Char → Option (Nat × List Char)
  | '0' :: 'x' :: rest =>
      (digits? (fun c => (CharSet.hexDigit? c).isSome) rest).map (Prod.map (number 16) id)
  | '0' :: 'o' :: rest => (digits? (fun c => '0' ≤ c && c ≤ '7') rest).map (Prod.map (number 8) id)
  | '0' :: 'b' :: rest =>
      (digits? (fun c => c == '0' || c == '1') rest).map (Prod.map (number 2) id)
  | _ => none

def integer? (s : List Char) : Option (Int × List Char) :=
  match markedInteger? s with
  | some (n, rest) => if n ≤ maxInteger then some (n, rest) else none
  | none => do
    let (negative, rest) := sign s
    let (digits, rest) ← decimalDigits? rest
    let n := number 10 digits
    if negative then if n ≤ maxInteger + 1 then some (-n, rest) else none
    else if n ≤ maxInteger then some (n, rest)
    else none

/-! ### Fractions -/

/-- The decimal number `n * 10 ^ scale` is nearer to two to the 1024th power than to any number that
a double holds. -/
def isTooLarge (n : Nat) (scale : Int) : Bool :=
  let magnitude := (Nat.toDigits 10 n).length + scale
  if n = 0 ∨ magnitude < 309 then false
  else if 309 < magnitude then true
  else
    let bound := Nat.pow 2 1024 - Nat.pow 2 970
    if 0 ≤ scale then bound ≤ n * Nat.pow 10 scale.toNat else bound * Nat.pow 10 (-scale).toNat ≤ n

/-- The digits behind a point. -/
def fraction? : List Char → Option (List Char × List Char)
  | '.' :: rest => digits? Char.isDigit rest
  | _ => none

def exponent? : List Char → Option (Int × List Char)
  | c :: rest =>
    if c = 'e' ∨ c = 'E' then do
      let (negative, rest) := sign rest
      let (digits, rest) ← digits? Char.isDigit rest
      let n : Int := number 10 digits
      some (if negative then -n else n, rest)
    else none
  | [] => none

/-- The text behind a number with a fraction, an exponent or both. -/
def decimalFraction? (s : List Char) : Option (List Char) := do
  let (negative, rest) := sign s
  let (whole, rest) ← decimalDigits? rest
  let (part, scale, rest) ←
    match fraction? rest with
    | some (part, rest) =>
      match exponent? rest with
      | some (e, rest) => some (part, e, rest)
      | none => some (part, 0, rest)
    | none => do
      let (e, rest) ← exponent? rest
      some ([], e, rest)
  if !negative && isTooLarge (number 10 (whole ++ part)) (scale - part.length) then none
    else some rest

/-- The text behind an infinity, or behind what is no number. -/
def specialFraction? (s : List Char) : Option (List Char) :=
  match (sign s).2 with
  | 'i' :: 'n' :: 'f' :: rest => some rest
  | 'n' :: 'a' :: 'n' :: rest => some rest
  | _ => none

def fractional? (s : List Char) : Option (List Char) := decimalFraction? s <|> specialFraction? s

/-! ### Dates and times -/

/-- A number of exactly so many digits. -/
def fixedDigits? (count : Nat) (s : List Char) : Option (Nat × List Char) :=
  let digits := s.take count
  if digits.length = count && digits.all Char.isDigit then some (number 10 digits, s.drop count)
    else none

/-- Two digits between bounds. -/
def twoDigits? (least most : Nat) (s : List Char) : Option (Nat × List Char) := do
  let (n, rest) ← fixedDigits? 2 s
  if least ≤ n ∧ n ≤ most then some (n, rest) else none

def expect? (c : Char) : List Char → Option (List Char)
  | d :: rest => if d = c then some rest else none
  | [] => none

def daysIn (year month : Nat) : Nat :=
  if month = 2 then if year % 4 = 0 ∧ (year % 100 ≠ 0 ∨ year % 400 = 0) then 29 else 28
  else if month ∈ [4, 6, 9, 11] then 30
  else 31

def day? (s : List Char) : Option (List Char) := do
  let (year, rest) ← fixedDigits? 4 s
  let (month, rest) ← twoDigits? 1 12 (← expect? '-' rest)
  let (_, rest) ← twoDigits? 1 (daysIn year month) (← expect? '-' rest)
  some rest

def secondFraction (s : List Char) : List Char :=
  match s with
  | '.' :: c :: rest => if c.isDigit then rest.dropWhile Char.isDigit else s
  | _ => s

def time? (s : List Char) : Option (List Char) := do
  let (_, rest) ← twoDigits? 0 23 s
  let (_, rest) ← twoDigits? 0 59 (← expect? ':' rest)
  let (_, rest) ← twoDigits? 0 60 (← expect? ':' rest)
  some (secondFraction rest)

def offset? : List Char → Option (List Char)
  | c :: rest =>
    if c = 'Z' ∨ c = 'z' then some rest
    else if c = '+' ∨ c = '-' then do
      let (_, rest) ← twoDigits? 0 23 rest
      let (_, rest) ← twoDigits? 0 59 (← expect? ':' rest)
      some rest
    else none
  | [] => none

/-- The time behind a day. -/
def timeOfDay? : List Char → Option (List Char)
  | c :: rest =>
    if c ∈ ['T', 't', ' '] then (time? rest).map fun rest => (offset? rest).getD rest else none
  | [] => none

/-- The text behind a day, a time, or both. -/
def date? (s : List Char) : Option (List Char) :=
  (day? s).map (fun rest => (timeOfDay? rest).getD rest) <|> time? s

end Conlang.Toml
