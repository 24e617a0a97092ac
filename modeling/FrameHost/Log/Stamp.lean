/-! Times as they stand at the front of lines: date and time of day, to the microsecond, in
universal time.

Years are counted from March, so that a leap day is the last day of its year. -/

set_option autoImplicit false

namespace FrameHost.Log

structure Date where
  year : Nat
  month : Nat
  day : Nat
  deriving DecidableEq, Repr, Inhabited

def daysOfEra : Nat := 146097

/-- Days from the first of March of the year zero to the first of January 1970. -/
def daysToEpoch : Nat := 719468

def Date.ofDays (days : Nat) : Date :=
  let era := (days + daysToEpoch) / daysOfEra
  let inEra := (days + daysToEpoch) % daysOfEra
  let year := (inEra - inEra / 1460 + inEra / 36524 - inEra / 146096) / 365
  let inYear := inEra - (365 * year + year / 4 - year / 100)
  let fromMarch := (5 * inYear + 2) / 153
  let month := if fromMarch < 10 then fromMarch + 3 else fromMarch - 9
  { year := 400 * era + year + (if month ≤ 2 then 1 else 0)
    month
    day := inYear - (153 * fromMarch + 2) / 5 + 1 }

def paddedTo (width n : Nat) : String :=
  let digits := toString n
  String.ofList (List.replicate (width - digits.length) '0') ++ digits

def stamp (micros : Nat) : String :=
  let seconds := micros / 1000000
  let date := Date.ofDays (seconds / 86400)
  let ofDay := seconds % 86400
  paddedTo 4 date.year ++ "-" ++ paddedTo 2 date.month ++ "-" ++ paddedTo 2 date.day ++ "T"
    ++ paddedTo 2 (ofDay / 3600) ++ ":" ++ paddedTo 2 (ofDay / 60 % 60) ++ ":"
    ++ paddedTo 2 (ofDay % 60) ++ "." ++ paddedTo 6 (micros % 1000000) ++ "Z"

example : stamp 0 = "1970-01-01T00:00:00.000000Z" := by cbv

example : Date.ofDays 11016 = ⟨2000, 2, 29⟩ := by decide

example : Date.ofDays 11017 = ⟨2000, 3, 1⟩ := by decide

example : stamp 1709251199999999 = "2024-02-29T23:59:59.999999Z" := by cbv

end FrameHost.Log
