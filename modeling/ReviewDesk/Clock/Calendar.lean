import ReviewDesk.Clock.Reading

set_option autoImplicit false

namespace ReviewDesk

open Number

structure Date where
  year : Int
  month : Nat
  day : Nat
deriving DecidableEq

structure Stamp where
  date : Date
  hour : Nat
  minute : Nat
  second : Nat
deriving DecidableEq

namespace Date

def daysPerEra : Int := 146097

-- Years are counted from March, so that the leap day is the last day of its year; an era of four
-- hundred years always has the same length.
def ofDays (daysSince1970 : Int) : Date :=
  let days := daysSince1970 + 719468
  let era := days.fdiv daysPerEra
  let dayOfEra := (days.fmod daysPerEra).toNat
  let yearOfEra := (dayOfEra - dayOfEra / 1460 + dayOfEra / 36524 - dayOfEra / 146096) / 365
  let dayOfYear := dayOfEra - (365 * yearOfEra + yearOfEra / 4 - yearOfEra / 100)
  let monthFromMarch := (5 * dayOfYear + 2) / 153
  let day := dayOfYear - (153 * monthFromMarch + 2) / 5 + 1
  let month := if monthFromMarch < 10 then monthFromMarch + 3 else monthFromMarch - 9
  let year := era * 400 + yearOfEra + (if month ≤ 2 then 1 else 0)
  ⟨year, month, day⟩

def isCovered (date : Date) : Bool := 1 ≤ date.year && date.year ≤ 9999

end Date

namespace Stamp

def secondsPerDay : Int := 86400

def ofSeconds (seconds : Int) : Stamp :=
  let rest := (seconds.fmod secondsPerDay).toNat
  ⟨.ofDays (seconds.fdiv secondsPerDay), rest / 3600, rest / 60 % 60, rest % 60⟩

inductive Fault where
  | notANumber
  | infinite
  | unwieldyDays
  | tooManyDays (days : Int)
  | outOfCalendar
deriving DecidableEq

def dayLimit : Int := 999999999

def Fault.message : Fault → String
  | notANumber => "cannot convert float NaN to integer"
  | infinite => "cannot convert float infinity to integer"
  | unwieldyDays => "Python int too large to convert to C int"
  | tooManyDays days =>
    "days=" ++ toString days ++ "; must have magnitude <= " ++ toString dayLimit
  | outOfCalendar => "date value out of range"

/-- A reading in microseconds. Of a double the part below a second is scaled on its own. -/
def microseconds : Reading → Except Fault Int
  | .exact q => .ok (nearestEven (q * 1000000))
  | .double .nan => .error .notANumber
  | .double (.infinite _) => .error .infinite
  | .double x =>
    let q := x.value?.getD 0
    let whole := q.num.tdiv q.den
    let scaled := (Double.ofRat ((q - whole) * 1000000)).value?.getD 0
    .ok (nearestEven (whole * 1000000 + scaled))

def ofMicroseconds (n : Int) : Except Fault Stamp :=
  let days := n.fdiv (secondsPerDay * 1000000)
  let stamp := ofSeconds (n.fdiv 1000000)
  if days < -0x80000000 || 0x80000000 ≤ days then .error .unwieldyDays
  else if days < -dayLimit || dayLimit < days then .error (.tooManyDays days)
  else if stamp.date.isCovered then .ok stamp
  else .error .outOfCalendar

def ofReading (reading : Reading) : Except Fault Stamp :=
  (microseconds reading).bind ofMicroseconds

def twoDigits (n : Nat) : String := if n < 10 then "0" ++ toString n else toString n

def text (stamp : Stamp) : String :=
  toString stamp.date.year ++ "-" ++ twoDigits stamp.date.month ++ "-" ++
    twoDigits stamp.date.day ++ " " ++ twoDigits stamp.hour ++ ":" ++ twoDigits stamp.minute ++
    ":" ++ twoDigits stamp.second

end Stamp

end ReviewDesk
