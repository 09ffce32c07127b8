import GasMachine.Fault
/-
Time stamps of log lines: date and time of day in UTC, with six digits after the second.

Days are counted in eras of 400 years, each of 146097 days, that start on the first of March; leap days then end a year,
and the months before them repeat in blocks of 153 days.
-/
namespace GasMachine.Log

/-- a date -/
structure Date where
  year : Nat
  month : Nat
  day : Nat
deriving DecidableEq, Repr

/-- the date so many days after 1 January 1970 -/
def Date.ofDays (days : Nat) : Date :=
  let shifted := days + 719468
  let inEra := shifted % 146097
  let yearOfEra := (inEra - inEra / 1460 + inEra / 36524 - inEra / 146096) / 365
  let inYear := inEra - (365 * yearOfEra + yearOfEra / 4 - yearOfEra / 100)
  let block := (5 * inYear + 2) / 153
  let month := if block < 10 then block + 3 else block - 9
  let year := 400 * (shifted / 146097) + yearOfEra
  { year := if month ≤ 2 then year + 1 else year, month, day := inYear - (153 * block + 2) / 5 + 1 }

/-- a number in decimal, filled up to a width with zeros -/
def padded (width n : Nat) : String :=
  let digits := Nat.toDigits 10 n
  String.ofList (List.replicate (width - digits.length) '0' ++ digits)

/-- the stamp of a time, given in seconds after the start of 1970 and microseconds -/
def stamp (seconds micros : Nat) : String :=
  let date := Date.ofDays (seconds / 86400)
  padded 4 date.year ++ "-" ++ padded 2 date.month ++ "-" ++ padded 2 date.day ++ "T" ++
    padded 2 (seconds / 3600 % 24) ++ ":" ++ padded 2 (seconds / 60 % 60) ++ ":" ++ padded 2 (seconds % 60) ++ "." ++
    padded 6 micros ++ "Z"

end GasMachine.Log
