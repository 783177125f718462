import RecordListing.Json.Printer
import RecordListing.Logging.Choice

namespace RecordListing.Logging

/-!
# Log lines

An event is logged as one JSON object, or as a line of text with the fields behind
the message. Lines of text may be coloured.
-/

/-- Puts a text between the codes that turn a look on and off. -/
def styled (color : Bool) (code text : String) : String :=
  if color then "\x1b[" ++ code ++ "m" ++ text ++ "\x1b[0m" else text

def dim : String := "2"

def italic : String := "3"

def colorCode : Level → String
  | .error => "31"
  | .warn => "33"
  | .info => "32"
  | .debug => "34"
  | .trace => "35"

/-- The name of a level, five characters wide. -/
def levelText (l : Level) : String :=
  "".pushn ' ' (5 - l.name.length) ++ l.name

def valueText : Json → String
  | .str s => s
  | v => v.toText

/-- Controls that could steer a terminal are spelled by number in a line of text. -/
def tamedChar (c : Char) : String :=
  if c ∈ ['\x07', '\x08', '\x0c', '\x1b', '\x7f'] then
    "\\x" ++ (if c.toNat < 0x10 then "0" else "") ++ Text.hexDigits c.toNat
  else if 0x80 ≤ c.toNat ∧ c.toNat ≤ 0x9F then "\\u\x7b" ++ Text.hexDigits c.toNat ++ "\x7d"
  else c.toString

def tamed (s : String) : String := s.toList.foldl (fun acc c => acc ++ tamedChar c) ""

def jsonLine (time : String) (e : Event) : String :=
  (Json.obj [
    ("timestamp", .str time),
    ("level", .str e.level.name),
    ("fields", .obj (("message", .str e.message) :: e.details)),
    ("target", .str e.target)]).toText

def textLine (color : Bool) (time : String) (e : Event) : String :=
  let fields := e.details.map fun (name, value) =>
    " " ++ styled color italic name ++ styled color dim "=" ++ valueText value
  styled color dim time ++ " " ++ styled color (colorCode e.level) (levelText e.level) ++ " " ++
    styled color dim e.target ++ styled color dim ":" ++ " " ++ tamed e.message ++
    Text.join "" fields

namespace Logger

def line (l : Logger) (time : String) (e : Event) : String :=
  match l.format with
  | .json => jsonLine time e
  | .text => textLine l.color time e

/-- The lines for the events that pass the filter, each ended. -/
def lines (l : Logger) (time : String) (events : List Event) : String :=
  Text.join "" ((events.filter l.filter.admits).map fun e => l.line time e ++ "\n")

end Logger

end RecordListing.Logging
