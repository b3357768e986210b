namespace Gatehouse

/-!
# Moments

Dates, times and both together, the latter with an optional offset. A day has
to exist in its month, a time has seconds and may have a fraction of them, and a
second may be the sixtieth.
-/

namespace Toml

/-- Read exactly `count` digits. -/
def fixedDigits? : (count : Nat) → List Char → Option (Nat × List Char)
  | 0, chars => some (0, chars)
  | count + 1, char :: rest => do
      guard char.isDigit
      let (value, after) ← fixedDigits? count rest
      return ((char.toNat - '0'.toNat) * Nat.pow 10 count + value, after)
  | _ + 1, [] => none

/-- Read two digits from `least` to `greatest`. -/
def twoDigits? (least greatest : Nat) (chars : List Char) : Option (Nat × List Char) := do
  let (value, rest) ← fixedDigits? 2 chars
  guard (least ≤ value ∧ value ≤ greatest)
  return (value, rest)

/-- Read a character. -/
def mark? (mark : Char) : List Char → Option (List Char)
  | [] => none
  | char :: rest => if char = mark then some rest else none

/-- Whether February has a twenty-ninth day. -/
def isLeapYear (year : Nat) : Bool :=
  year % 4 = 0 && (year % 100 ≠ 0 || year % 400 = 0)

/-- The number of days in a month. -/
def daysInMonth (year month : Nat) : Nat :=
  if month = 2 then if isLeapYear year then 29 else 28
  else if month = 4 ∨ month = 6 ∨ month = 9 ∨ month = 11 then 30
  else 31

/-- Pass over a date. -/
def date? (chars : List Char) : Option (List Char) := do
  let (year, rest) ← fixedDigits? 4 chars
  let (month, rest) ← twoDigits? 1 12 (← mark? '-' rest)
  let (_, rest) ← twoDigits? 1 (daysInMonth year month) (← mark? '-' rest)
  return rest

/-- Pass over a fraction of a second, if a point starts one. -/
def secondFraction? (chars : List Char) : Option (List Char) :=
  match chars with
  | '.' :: char :: rest => if char.isDigit then some (rest.dropWhile Char.isDigit) else some chars
  | _ => some chars

/-- Pass over a time of day. -/
def time? (chars : List Char) : Option (List Char) := do
  let (_, rest) ← twoDigits? 0 23 chars
  let (_, rest) ← twoDigits? 0 59 (← mark? ':' rest)
  let (_, rest) ← twoDigits? 0 60 (← mark? ':' rest)
  secondFraction? rest

/-- Pass over an offset, if there is one. -/
def offset? (chars : List Char) : Option (List Char) :=
  match chars with
  | 'Z' :: rest | 'z' :: rest => some rest
  | '+' :: rest | '-' :: rest => do
      let (_, rest) ← twoDigits? 0 23 rest
      let (_, rest) ← twoDigits? 0 59 (← mark? ':' rest)
      return rest
  | _ => some chars

/-- Whether a time of day may follow a date here. -/
def startsTime : List Char → Bool
  | 'T' :: rest | 't' :: rest | ' ' :: rest =>
      match fixedDigits? 2 rest with
      | some (_, ':' :: _) => true
      | _ => false
  | _ => false

/-- Whether a date starts here, and not a number. -/
def startsDate (chars : List Char) : Bool :=
  match fixedDigits? 4 chars with
  | some (_, '-' :: _) => true
  | _ => false

/-- Whether a time of day starts here, and not a number. -/
def startsTimeOfDay (chars : List Char) : Bool :=
  match fixedDigits? 2 chars with
  | some (_, ':' :: _) => true
  | _ => false

/-- Whether a moment starts here. -/
def startsMoment (chars : List Char) : Bool :=
  startsDate chars || startsTimeOfDay chars

/-- Pass over a moment. -/
def moment? (chars : List Char) : Option (List Char) :=
  if startsDate chars then do
    let rest ← date? chars
    if startsTime rest then
      offset? (← time? (rest.drop 1))
    else
      return rest
  else
    time? chars

end Toml

end Gatehouse
