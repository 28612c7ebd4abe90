import ExportSurface.Toml.Value

/-!
# Dates and times of TOML

A date is a year, a month and a day of the calendar. A time of day has hours, minutes and seconds and
may have a fraction; a minute may have a sixty-first second. A date may be followed by a time behind
a `T` or a space, and then by an offset from universal time.
-/

namespace ExportSurface.Toml

/-! ## The calendar -/

/-- Whether a year has a twenty-ninth of February. -/
def isLeapYear (year : Nat) : Bool := year % 4 = 0 && (year % 100 ≠ 0 || year % 400 = 0)

/-- The number of days of a month. -/
def daysIn (year month : Nat) : Nat :=
  if month = 2 then if isLeapYear year then 29 else 28
  else if month = 4 || month = 6 || month = 9 || month = 11 then 30
  else 31

/-! ## Readers -/

/-- Reads a number of exactly `n` digits. -/
def fixedNumber? (n : Nat) (s : Text) : Option (Nat × Text) :=
  let ds := s.take n
  if ds.length = n && ds.all Char.isDigit then
    some (ds.foldl (fun m c => m * 10 + (c.toNat - 0x30)) 0, s.drop n)
  else none

/-- Reads a number of two digits between bounds. -/
def pair? (low high : Nat) (s : Text) : Option (Nat × Text) :=
  (fixedNumber? 2 s).filter fun x => low ≤ x.1 && x.1 ≤ high

/-- Reads a date; returns what follows it. -/
def date? (s : Text) : Option Text := do
  let (year, s) ← fixedNumber? 4 s
  let s ← dropPrefix? ['-'] s
  let (month, s) ← pair? 1 12 s
  let s ← dropPrefix? ['-'] s
  let (_, s) ← pair? 1 (daysIn year month) s
  some s

/-- Drops the fraction of a second, if one follows. -/
def dropSecondFraction (s : Text) : Text :=
  match s with
  | '.' :: c :: r => if c.isDigit then r.dropWhile Char.isDigit else s
  | _ => s

/-- Reads hours and minutes; returns what follows them. -/
def clock? (s : Text) : Option Text := do
  let (_, s) ← pair? 0 23 s
  let s ← dropPrefix? [':'] s
  let (_, s) ← pair? 0 59 s
  some s

/-- Reads a time of day; returns what follows it. -/
def time? (s : Text) : Option Text := do
  let s ← clock? s
  let s ← dropPrefix? [':'] s
  let (_, s) ← pair? 0 60 s
  some (dropSecondFraction s)

/-- Drops an offset from universal time, if one follows. -/
def dropOffset (s : Text) : Text :=
  match s with
  | c :: r =>
    if c = 'Z' || c = 'z' then r
    else if c = '+' || c = '-' then (clock? r).getD s
    else s
  | [] => []

/-- Drops a time behind a date, if one follows. -/
def dropTimeOfDate (s : Text) : Text :=
  match s with
  | c :: r =>
    if c = 'T' || c = 't' || c = ' ' then ((time? r).map dropOffset).getD s else s
  | [] => []

/-- Reads a date, a time or both. -/
def moment? (s : Text) : Option (Toml × Text) :=
  match date? s with
  | some rest => some (moment, dropTimeOfDate rest)
  | none => (time? s).map (moment, ·)

end ExportSurface.Toml
