import PropForge.Schema.Basic

/-!
The calendar: how long months are, and which moment lies how many seconds after the start of 1970.
-/

namespace PropForge.Calendar

def isLeap (year : Nat) : Bool := year % 4 = 0 && (year % 100 ≠ 0 || year % 400 = 0)

/-- The number of days of a month. -/
def daysIn (year month : Nat) : Nat :=
  if month = 2 then if isLeap year then 29 else 28
  else if [4, 6, 9, 11].contains month then 30
  else 31

/-- The days from the first of March of the year 0 to the start of 1970. -/
def daysBefore1970 : Nat := 719468

/-- Year, month and day of a day counted from the first of March of the year 0. A year that starts
in March ends with its leap day, if it has one. -/
def ofMarchDay (n : Nat) : Nat × Nat × Nat :=
  let cycle := n / 146097
  let day := n % 146097
  let year := (day - day / 1460 + day / 36524 - day / 146096) / 365
  let day := day - (365 * year + year / 4 - year / 100)
  let month := (5 * day + 2) / 153
  let day := day - (153 * month + 2) / 5 + 1
  let month := if month < 10 then month + 3 else month - 9
  (400 * cycle + year + (if month ≤ 2 then 1 else 0), month, day)

/-- The moment so many seconds, and a part of one in microseconds, after the start of 1970. -/
def ofSeconds (seconds microsecond : Nat) : Timestamp :=
  let (year, month, day) := ofMarchDay (seconds / 86400 + daysBefore1970)
  let rest := seconds % 86400
  ⟨year, month, day, rest / 3600, rest / 60 % 60, rest % 60, microsecond, some 0⟩

end PropForge.Calendar
