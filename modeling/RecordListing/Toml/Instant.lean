import RecordListing.Timestamp
import RecordListing.Toml.Basic

namespace RecordListing.Toml

/-!
# Dates and times

A date, a time of day or both stand in a document as such, or as a text in a table
that begins with the reserved key `instantKey`. Such a table is the instant, and
what else it holds does not count.
-/

/-- A date of the calendar, and what follows it. -/
def date? (cs : List Char) : Option (List Char × List Char) := do
  let (year, rest) ← Timestamp.digits? 4 cs
  let rest ← Timestamp.skip? (· = '-') rest
  let (month, rest) ← Timestamp.digits? 2 rest
  let rest ← Timestamp.skip? (· = '-') rest
  let (day, rest) ← Timestamp.digits? 2 rest
  if Date.Real ⟨year, month, day⟩ then return (cs.take 10, rest) else none

/-- A fraction of a second, to nine digits and without trailing zeros. -/
def secondFraction? : List Char → Option (List Char × List Char)
  | '.' :: cs =>
    let ds := cs.takeWhile Char.isDigit
    if ds.isEmpty then none
    else
      let kept := ((ds.take 9).reverse.dropWhile (· = '0')).reverse
      some (if kept.isEmpty then [] else '.' :: kept, cs.dropWhile Char.isDigit)
  | cs => some ([], cs)

/-- A time of day, and what follows it. -/
def time? (lastHour : Nat) (cs : List Char) : Option (List Char × List Char) := do
  let (hour, rest) ← Timestamp.digits? 2 cs
  let rest ← Timestamp.skip? (· = ':') rest
  let (minute, rest) ← Timestamp.digits? 2 rest
  let rest ← Timestamp.skip? (· = ':') rest
  let (second, rest) ← Timestamp.digits? 2 rest
  let (fraction, rest) ← secondFraction? rest
  if hour ≤ lastHour ∧ minute ≤ 59 ∧ second ≤ 60 then
    return (cs.take 8 ++ fraction, rest)
  else none

/-- Minutes east of UTC in normal form. -/
def offsetText (minutes : Int) : List Char :=
  (if minutes < 0 then '-' else '+') :: (Timestamp.padded 2 (minutes.natAbs / 60) ++
    ':' :: Timestamp.padded 2 (minutes.natAbs % 60))

/-- An offset from UTC, or none, at the end of a token. -/
def offset? : List Char → Option (List Char)
  | [] => some []
  | cs => do
    let minutes ← Timestamp.offset? (if cs.head? = some '\u2212' then [] else cs)
    return if cs = ['Z'] ∨ cs = ['z'] then ['Z'] else offsetText minutes

/-- An offset in a text, up to a day in which the minutes may pass an hour. -/
def textOffset? : List Char → Option (List Char)
  | [] => some []
  | sign :: cs => do
    if (sign = 'Z' ∨ sign = 'z') ∧ cs.isEmpty then return ['Z']
    let west ← if sign = '+' then some false else if sign = '-' then some true else none
    let (hours, cs) ← Timestamp.digits? 2 cs
    let cs ← Timestamp.skip? (· = ':') cs
    let (minutes, cs) ← Timestamp.digits? 2 cs
    let total : Int := hours * 60 + minutes
    if cs.isEmpty ∧ total ≤ 1440 then return offsetText (if west then -total else total) else none

/-- The instant that a text denotes. A date alone may have an offset, a time alone
has none, and a day may end at its hour 24. -/
def instant? (cs : List Char) : Option (List Char) :=
  if cs[2]? = some ':' then
    match time? 24 cs with
    | some (time, []) => some time
    | _ => none
  else do
    let (date, rest) ← date? cs
    match rest with
    | [] => return date
    | mark :: after =>
      if mark = 'T' ∨ mark = 't' ∨ mark = ' ' then
        let (time, rest) ← time? 24 after
        return date ++ 'T' :: time ++ (← textOffset? rest)
      else return date ++ (← textOffset? rest)

def instantKey : String := "$__toml_private_datetime"

mutual

/-- The value with its tables in the order of their keys, and with an instant for
every table that begins with `instantKey`; nothing if one of those holds no instant. -/
def resolved? : Toml → Option Toml
  | .array items => (resolvedItems? items).map .array
  | .table ((key, v) :: rest) =>
    if key = instantKey then
      match v with
      | .text s => (instant? s.toList).map fun cs => .instant (.ofList cs)
      | _ => none
    else do
      let v ← resolved? v
      return .table (Keyed.put key v (← resolvedEntries? rest))
  | v => some v

def resolvedItems? : List Toml → Option (List Toml)
  | [] => some []
  | v :: vs => do
    let v ← resolved? v
    return v :: (← resolvedItems? vs)

def resolvedEntries? : List (String × Toml) → Option (List (String × Toml))
  | [] => some []
  | (key, v) :: rest => do
    let v ← resolved? v
    return Keyed.put key v (← resolvedEntries? rest)

end

end RecordListing.Toml
