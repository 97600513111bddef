import LineBudget.Number.Numeral

/-! Calendar days and times of day as documents write them. -/
namespace LineBudget.Yaml
open LineBudget.Number

structure Zone where
  west : Bool
  hours : Nat
  minutes : Nat
  deriving DecidableEq, Repr

structure Clock where
  hour : Nat
  minute : Nat
  second : Nat
  /-- None where no zone or the universal one is given. -/
  zone : Option Zone
  deriving DecidableEq, Repr

structure Moment where
  year : Nat
  month : Nat
  day : Nat
  clock : Option Clock
  /-- Month and day were written with two digits. -/
  padded : Bool
  deriving DecidableEq, Repr

/-- Digits, at least `least` and at most `most`, and what follows them. -/
def readDigits? (least most : Nat) (text : List Char) : Option (Nat × List Char) :=
  let digits := (text.take most).takeWhile Char.isDigit
  if digits.length < least then none
  else (digitsValue? 10 digits).map (·, text.drop digits.length)

def afterChar? (c : Char) : List Char → Option (List Char)
  | d :: rest => if c = d then some rest else none
  | [] => none

def isGap (c : Char) : Bool := c = ' ' || c = '\t'

/-- The zone at the end of a time; nothing else may follow. -/
def readZone? (text : List Char) : Option (Option Zone) :=
  match text, text.dropWhile isGap with
  | [], _ => some none
  | _, ['Z'] => some none
  | _, sign :: rest => do
    guard (sign = '-' || sign = '+')
    let (hours, rest) ← readDigits? 1 2 rest
    match rest with
    | [] => some (some ⟨sign = '-', hours, 0⟩)
    | rest => do
      let (minutes, rest) ← readDigits? 2 2 (← afterChar? ':' rest)
      guard rest.isEmpty
      some (some ⟨sign = '-', hours, minutes⟩)
  | _, [] => none

def readClock? (text : List Char) : Option Clock := do
  let (hour, rest) ← readDigits? 1 2 text
  let (minute, rest) ← readDigits? 2 2 (← afterChar? ':' rest)
  let (second, rest) ← readDigits? 2 2 (← afterChar? ':' rest)
  let rest := match rest with
    | '.' :: fraction => fraction.dropWhile Char.isDigit
    | rest => rest
  let zone ← readZone? rest
  some ⟨hour, minute, second, zone⟩

/-- A day, or a day and a time after a `T` or after spaces. -/
def readMoment? (text : List Char) : Option Moment := do
  let (year, rest) ← readDigits? 4 4 text
  let monthText ← afterChar? '-' rest
  let (month, rest) ← readDigits? 1 2 monthText
  let dayText ← afterChar? '-' rest
  let (day, rest) ← readDigits? 1 2 dayText
  let padded := monthText.length = rest.length + 5
  match rest with
  | [] => some ⟨year, month, day, none, padded⟩
  | c :: after =>
    guard (c = 'T' || c = 't' || isGap c)
    let clock ← readClock? (if isGap c then after.dropWhile isGap else after)
    some ⟨year, month, day, some clock, padded⟩

/-- A plain scalar with these looks is a moment: a day in full width, or one with a time. -/
def isTimestamp (text : List Char) : Bool :=
  (readMoment? text).any fun m => m.clock.isSome || m.padded

inductive MomentFault where
  | zone (zone : Zone)
  | year
  | month
  | day
  | hour
  | minute
  | second
  deriving DecidableEq, Repr

/-- A zone in days and the seconds that are left, rounded down. -/
def Zone.daysAndSeconds (z : Zone) : Int × Int :=
  let seconds : Int := (z.hours * 3600 + z.minutes * 60 : Nat)
  let signed := if z.west then -seconds else seconds
  (Int.fdiv signed 86400, Int.fmod signed 86400)

def MomentFault.message : MomentFault → String
  | .zone z =>
    let (days, seconds) := z.daysAndSeconds
    let rest := if seconds = 0 then "" else s!", seconds={seconds}"
    s!"offset must be a timedelta strictly between -timedelta(hours=24) and timedelta(hours=24), not datetime.timedelta(days={days}{rest})."
  | .year => "year 0 is out of range"
  | .month => "month must be in 1..12"
  | .day => "day is out of range for month"
  | .hour => "hour must be in 0..23"
  | .minute => "minute must be in 0..59"
  | .second => "second must be in 0..59"

def isLeap (year : Nat) : Bool := year % 4 = 0 && (year % 100 ≠ 0 || year % 400 = 0)

def daysIn (year month : Nat) : Nat :=
  if month = 2 then (if isLeap year then 29 else 28)
  else if month = 4 || month = 6 || month = 9 || month = 11 then 30
  else 31

/-- The first thing about a moment that is out of range. -/
def Moment.fault? (m : Moment) : Option MomentFault :=
  let zone := m.clock.bind (·.zone)
  let clock := m.clock.getD ⟨0, 0, 0, none⟩
  match zone with
  | some z => if 24 * 60 ≤ z.hours * 60 + z.minutes then some (.zone z) else fields clock
  | none => fields clock
where
  fields (clock : Clock) : Option MomentFault :=
    if m.year = 0 then some .year
    else if m.month = 0 || 12 < m.month then some .month
    else if m.day = 0 || daysIn m.year m.month < m.day then some .day
    else if 23 < clock.hour then some .hour
    else if 59 < clock.minute then some .minute
    else if 59 < clock.second then some .second
    else none

end LineBudget.Yaml
