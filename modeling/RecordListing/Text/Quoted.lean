import RecordListing.Text.PrintTable
import RecordListing.Text.Runs

namespace RecordListing.Text

/-!
# Quoted text in messages

A text between double quotes in which every character can be seen: quotes and
backslashes are escaped, and characters without a form of their own are spelled
by number.
-/

def hexDigits (n : Nat) : String := .ofList (Nat.toDigits 16 n)

def quotedChar (c : Char) : String :=
  if c = '"' then "\\\""
  else if c = '\\' then "\\\\"
  else if c = '\n' then "\\n"
  else if c = '\r' then "\\r"
  else if c = '\t' then "\\t"
  else if c.toNat = 0 then "\\0"
  else if memRuns graphemeExtend c || memRuns unprintable c then
    "\\u\x7b" ++ hexDigits c.toNat ++ "\x7d"
  else c.toString

def quoted (s : String) : String :=
  s.toList.foldl (fun acc c => acc ++ quotedChar c) "\"" ++ "\""

end RecordListing.Text
