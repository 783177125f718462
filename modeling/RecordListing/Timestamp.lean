import RecordListing.Binary64.Reader

namespace RecordListing

/-!
# Timestamps

A timestamp is written as a date, a time of day and an offset from UTC. It is
shown in UTC without fractions of a second. A leap second, written 60, stays one.
-/

structure Date where
  year : Int
  month : Nat
  day : Nat
  deriving DecidableEq

namespace Date

def isLeap (year : Int) : Bool := year % 4 = 0 ∧ (year % 100 ≠ 0 ∨ year % 400 = 0)

def monthLength (year : Int) (month : Nat) : Nat :=
  if month = 2 then (if isLeap year then 29 else 28)
  else if month = 4 ∨ month = 6 ∨ month = 9 ∨ month = 11 then 30
  else 31

def Real (d : Date) : Prop :=
  1 ≤ d.month ∧ d.month ≤ 12 ∧ 1 ≤ d.day ∧ d.day ≤ monthLength d.year d.month

instance (d : Date) : Decidable d.Real := by unfold Real; infer_instance

def next (d : Date) : Date :=
  if d.day < monthLength d.year d.month then { d with day := d.day + 1 }
  else if d.month < 12 then ⟨d.year, d.month + 1, 1⟩
  else ⟨d.year + 1, 1, 1⟩

def previous (d : Date) : Date :=
  if 1 < d.day then { d with day := d.day - 1 }
  else if 1 < d.month then ⟨d.year, d.month - 1, monthLength d.year (d.month - 1)⟩
  else ⟨d.year - 1, 12, 31⟩

end Date

structure Timestamp where
  date : Date
  /-- Minutes since midnight. -/
  minute : Nat
  second : Nat
  deriving DecidableEq

namespace Timestamp

/-- The number that the first `count` characters write in decimal digits. -/
def digits? (count : Nat) (cs : List Char) : Option (Nat × List Char) :=
  let ds := cs.take count
  if ds.length = count ∧ ds.all Char.isDigit then some (naturalOf ds, cs.drop count) else none

def skip? (allowed : Char → Bool) : List Char → Option (List Char)
  | [] => none
  | c :: cs => if allowed c then some cs else none

/-- A fraction of a second is a point and at least one digit. -/
def skipFraction? : List Char → Option (List Char)
  | '.' :: cs => if (cs.head?.any Char.isDigit) then some (cs.dropWhile Char.isDigit) else none
  | cs => some cs

/-- Minutes east of UTC, at the end of a timestamp. -/
def offset? (cs : List Char) : Option Int := do
  if cs = ['Z'] ∨ cs = ['z'] then return 0
  match cs with
  | [] => none
  | sign :: cs =>
    let west ← if sign = '+' then some false
      else if sign = '-' ∨ sign = '\u2212' then some true else none
    let (hours, cs) ← digits? 2 cs
    let cs ← skip? (· = ':') cs
    let (minutes, cs) ← digits? 2 cs
    if cs.isEmpty ∧ hours ≤ 23 ∧ minutes ≤ 59 then
      let total : Int := hours * 60 + minutes
      return (if west then -total else total)
    else none

/-- The timestamp with the date and time of day at its offset. -/
def local? (cs : List Char) : Option (Timestamp × Int) := do
  let (year, cs) ← digits? 4 cs
  let cs ← skip? (· = '-') cs
  let (month, cs) ← digits? 2 cs
  let cs ← skip? (· = '-') cs
  let (day, cs) ← digits? 2 cs
  let cs ← skip? (fun c => c = 'T' || c = 't' || c = ' ') cs
  let (hour, cs) ← digits? 2 cs
  let cs ← skip? (· = ':') cs
  let (minute, cs) ← digits? 2 cs
  let cs ← skip? (· = ':') cs
  let (second, cs) ← digits? 2 cs
  let cs ← skipFraction? cs
  let offset ← offset? cs
  let date : Date := ⟨year, month, day⟩
  if date.Real ∧ hour ≤ 23 ∧ minute ≤ 59 ∧ second ≤ 60 then
    return (⟨date, hour * 60 + minute, second⟩, offset)
  else none

/-- The same instant in UTC. An offset moves the date by a day at most. -/
def toUtc (t : Timestamp) (offset : Int) : Timestamp :=
  let m : Int := t.minute - offset
  if m < 0 then { t with date := t.date.previous, minute := (m + 1440).toNat }
  else if m < 1440 then { t with minute := m.toNat }
  else { t with date := t.date.next, minute := (m - 1440).toNat }

def ofText? (s : String) : Option Timestamp :=
  (local? s.toList).map fun (t, offset) => t.toUtc offset

/-- At least `width` digits. -/
def padded (width n : Nat) : List Char :=
  let ds := Nat.toDigits 10 n
  List.replicate (width - ds.length) '0' ++ ds

/-- Years outside four digits carry a sign. -/
def yearText (y : Int) : List Char :=
  if y < 0 then '-' :: padded 4 y.natAbs
  else if y ≤ 9999 then padded 4 y.natAbs
  else '+' :: padded 4 y.natAbs

def write (t : Timestamp) : List Char :=
  yearText t.date.year ++ '-' :: padded 2 t.date.month ++ '-' :: padded 2 t.date.day ++
    'T' :: padded 2 (t.minute / 60) ++ ':' :: padded 2 (t.minute % 60) ++
    ':' :: padded 2 t.second ++ ['Z']

/-- A text that is a timestamp in UTC, and any other text as it is. -/
def normalText (s : String) : String :=
  match ofText? s with
  | some t => .ofList t.write
  | none => s

end Timestamp

end RecordListing
