/-!
# Dates and times of TOML

A date is written `1979-05-27` and a time `07:32:00` or `07:32:00.25`. A date may be followed by `T`
or a blank and a time, and these by `Z` or the offset of a time zone, `+02:00`. A date has to be in
the calendar.

No setting is a date or a time, so only their extent in a text counts and not what they stand for.
-/

namespace LineCommands.Toml

/-- A number of two digits that is less than a bound, and what follows it. -/
def twoDigits? (bound : Nat) (cs : List Char) : Option (Nat × List Char) :=
  match cs with
  | d :: e :: rest =>
    let n := 10 * (d.toNat - '0'.toNat) + (e.toNat - '0'.toNat)
    if d.isDigit && e.isDigit && n < bound then some (n, rest) else none
  | _ => none

/-- What follows a character that must come next. -/
def after? (c : Char) (cs : List Char) : Option (List Char) :=
  match cs with
  | d :: rest => if d = c then some rest else none
  | [] => none

/-- What follows the fraction of a second, if there is one. -/
def skipFraction (cs : List Char) : List Char :=
  match cs with
  | '.' :: d :: rest => if d.isDigit then rest.dropWhile Char.isDigit else cs
  | cs => cs

/-- What follows a time. -/
def skipTime? (cs : List Char) : Option (List Char) := do
  let (_, cs) ← twoDigits? 24 cs
  let (_, cs) ← twoDigits? 60 (← after? ':' cs)
  let (_, cs) ← twoDigits? 60 (← after? ':' cs)
  return skipFraction cs

/-- What follows a difference from universal time. -/
def skipDifference? (cs : List Char) : Option (List Char) := do
  let (_, cs) ← twoDigits? 24 cs
  let (_, cs) ← twoDigits? 60 (← after? ':' cs)
  return cs

/-- What follows a time zone, if there is one. -/
def skipZone (cs : List Char) : List Char :=
  match cs with
  | c :: rest =>
    if c = 'Z' ∨ c = 'z' then rest
    else if c = '+' ∨ c = '-' then (skipDifference? rest).getD cs
    else cs
  | [] => cs

/-- The number of days of a month. -/
def monthDays (year month : Nat) : Nat :=
  if month = 2 then if year % 4 = 0 ∧ (year % 100 ≠ 0 ∨ year % 400 = 0) then 29 else 28
  else if month = 4 ∨ month = 6 ∨ month = 9 ∨ month = 11 then 30
  else 31

/-- The date is in the calendar. -/
def isDate (year month day : Nat) : Bool :=
  1 ≤ year && 1 ≤ month && month ≤ 12 && 1 ≤ day && day ≤ monthDays year month

/-- What follows a date. -/
def skipDate? (cs : List Char) : Option (List Char) := do
  let (century, cs) ← twoDigits? 100 cs
  let (year, cs) ← twoDigits? 100 cs
  let (month, cs) ← twoDigits? 100 (← after? '-' cs)
  let (day, cs) ← twoDigits? 100 (← after? '-' cs)
  if isDate (100 * century + year) month day then some cs else none

/-- What follows a date, and the time after it if there is one. -/
def skipDateTime? (cs : List Char) : Option (List Char) := do
  let cs ← skipDate? cs
  match cs with
  | c :: rest =>
    if c = 'T' ∨ c = 't' ∨ c = ' ' then
      match skipTime? rest with
      | some cs => return skipZone cs
      | none => return cs
    else return cs
  | [] => return cs

/-- The length of the date or time at the front. -/
def momentLength? (cs : List Char) : Option Nat :=
  ((skipDateTime? cs).or (skipTime? cs)).map fun rest ↦ cs.length - rest.length

end LineCommands.Toml
