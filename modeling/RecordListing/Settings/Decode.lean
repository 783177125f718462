import RecordListing.Binary64.Notation
import RecordListing.Settings.Basic
import RecordListing.Settings.Tree
import RecordListing.Text.Quoted

namespace RecordListing

/-!
# Settings with their types

Scalars are converted to the type that is wanted: almost every scalar is a text,
and numbers and some words are switches. What is wrong is reported with its key and
its origin where the conversion of a scalar fails.
-/

/-- What stood where something else was expected. -/
inductive Setting.Found where
  | unset
  | switch (b : Bool)
  | integer (n : Int)
  | float (x : Binary64.Extended)
  | text (s : String)
  | list
  | table
  deriving DecidableEq

def Setting.found : Setting → Found
  | .scalar _ .unset => .unset
  | .scalar _ (.switch b) => .switch b
  | .scalar _ (.integer n) => .integer n
  | .scalar _ (.float x) => .float x
  | .scalar _ (.text s) => .text s
  | .list _ _ => .list
  | .table _ _ => .table

def Setting.origin : Setting → Option String
  | .scalar o _ => o
  | .list o _ => o
  | .table o _ => o

namespace Binary64.Extended

/-- Every number positionally, an integer without a fraction. -/
def plainStyle : Notation := ⟨none, false, false⟩

/-- Every number positionally and with a fraction. -/
def pointStyle : Notation := ⟨none, true, false⟩

def write (style : Notation) : Extended → String
  | .finite x => .ofList (style.write x)
  | .infinite false => "inf"
  | .infinite true => "-inf"
  | .notANumber => "NaN"

end Binary64.Extended

def decimalText (n : Int) : String :=
  (if n < 0 then "-" else "") ++ .ofList (Nat.toDigits 10 n.natAbs)

def switchText (b : Bool) : String := if b then "true" else "false"

def Setting.Found.message : Setting.Found → String
  | .unset => "unit value"
  | .switch b => "boolean `" ++ switchText b ++ "`"
  | .integer n => "integer `" ++ decimalText n ++ "`"
  | .float x => "floating point `" ++ x.write Binary64.Extended.pointStyle ++ "`"
  | .text s => "string " ++ Text.quoted s
  | .list => "sequence"
  | .table => "map"

/-- The same with the width of an integer, and without a fraction of zero. -/
def Setting.Found.sizedMessage : Setting.Found → String
  | .integer n => "64-bit integer `" ++ decimalText n ++ "`"
  | .float x => "floating point `" ++ x.write Binary64.Extended.plainStyle ++ "`"
  | found => found.message

inductive DecodeError where
  | wrongScalar (found : Setting.Found) (expected : String) (key : String) (origin : Option String)
  | wrongShape (found : Setting.Found) (expected : String)
  | unknownVariant (type name : String)
  | notAVariant (type : String)
  deriving DecidableEq

namespace DecodeError

/-- Puts a part of the key in front. -/
def under (part : String) : DecodeError → DecodeError
  | .wrongScalar found expected key origin =>
    let dot := match key.toList.head? with
      | none => ""
      | some '[' => ""
      | some _ => "."
    .wrongScalar found expected (part ++ dot ++ key) origin
  | e => e

def message : DecodeError → String
  | .wrongScalar found expected key origin =>
    "invalid type: " ++ found.sizedMessage ++ ", expected " ++ expected ++
      (if key.isEmpty then "" else " for key `" ++ key ++ "`") ++
      (match origin with
        | none => ""
        | some o => " in " ++ o)
  | .wrongShape found expected => "invalid type: " ++ found.message ++ ", expected " ++ expected
  | .unknownVariant type name => "enum " ++ type ++ " does not have variant constructor " ++ name
  | .notAVariant type =>
    "value of enum " ++ type ++
      " should be represented by either string or table with exactly one key"

end DecodeError

abbrev Decoder (α : Type) := Setting → Except DecodeError α

namespace Decoder

def text : Decoder String
  | .scalar _ (.text s) => .ok s
  | .scalar _ (.switch b) => .ok (switchText b)
  | .scalar _ (.integer n) => .ok (decimalText n)
  | .scalar _ (.float x) => .ok (x.write Binary64.Extended.plainStyle)
  | v => .error (.wrongScalar v.found "a string" "" v.origin)

/-- The meaning of a word as a switch. -/
def switchOfWord? (word : String) : Option Bool :=
  if word ∈ ["1", "true", "on", "yes"] then some true
  else if word ∈ ["0", "false", "off", "no"] then some false
  else none

def isZero : Binary64.Extended → Bool
  | .finite x => x.isZero
  | _ => false

def switch : Decoder Bool
  | .scalar _ (.switch b) => .ok b
  | .scalar _ (.integer n) => .ok (n ≠ 0)
  | .scalar _ (.float x) => .ok (!isZero x)
  | .scalar origin (.text s) =>
    match switchOfWord? (Text.lower s) with
    | some b => .ok b
    | none => .error (.wrongScalar (.text (Text.lower s)) "a boolean" "" origin)
  | v => .error (.wrongScalar v.found "a boolean" "" v.origin)

def optional {α : Type} (decode : Decoder α) : Decoder (Option α)
  | .scalar _ .unset => .ok none
  | v => (decode v).map some

/-- Decodes items with their positions. -/
def decodeItems {α : Type} (decode : Decoder α) : Nat → List Setting → Except DecodeError (List α)
  | _, [] => .ok []
  | i, v :: vs =>
    match decode v with
    | .error e => .error (e.under ("[" ++ toString i ++ "]"))
    | .ok a => (decodeItems decode (i + 1) vs).map (a :: ·)

def list {α : Type} (decode : Decoder α) : Decoder (List α)
  | .list _ items => decodeItems decode 0 items
  | v => .error (.wrongShape v.found "a sequence")

def decodeEntries {α : Type} (decode : Decoder α) :
    List (String × Setting) → Except DecodeError (Keyed α)
  | [] => .ok []
  | (key, v) :: rest =>
    match decode v with
    | .error e => .error (e.under key)
    | .ok a => (decodeEntries decode rest).map (Keyed.put key a ·)

def map {α : Type} (decode : Decoder α) : Decoder (Keyed α)
  | .table _ entries => decodeEntries decode entries
  | v => .error (.wrongShape v.found "a map")

/-- One of several names in any case, by itself or as the only key of a table. -/
def variant {α : Type} (type : String) (name : α → String) (all : List α) : Decoder α :=
  let ofName (s : String) : Except DecodeError α :=
    match all.find? fun v => Text.lower (name v) = Text.lower s with
    | some v => .ok v
    | none => .error (.unknownVariant type s)
  fun
    | .scalar _ (.text s) => ofName s
    | .table _ [(key, _)] => ofName key
    | _ => .error (.notAVariant type)

structure Field (σ : Type) where
  name : String
  decode : σ → Decoder σ

def field {σ α : Type} (name : String) (decode : Decoder α) (set : α → σ → σ) : Field σ :=
  ⟨name, fun s v => (decode v).map (set · s)⟩

/-- The fields of a record by name; unknown entries are passed over. -/
def decodeFields {σ : Type} (fields : List (Field σ)) :
    List (String × Setting) → σ → Except DecodeError σ
  | [], s => .ok s
  | (key, v) :: rest, s =>
    match fields.find? fun f => f.name = key with
    | none => decodeFields fields rest s
    | some f =>
      match f.decode s v with
      | .error e => .error (e.under key)
      | .ok s => decodeFields fields rest s

/-- The fields of a record by position; items after the last are passed over. -/
def decodePositions {σ : Type} : List (Field σ) → Nat → List Setting → σ → Except DecodeError σ
  | [], _, _, s => .ok s
  | _, _, [], s => .ok s
  | f :: fs, i, v :: vs, s =>
    match f.decode s v with
    | .error e => .error (e.under ("[" ++ toString i ++ "]"))
    | .ok s => decodePositions fs (i + 1) vs s

def record {σ : Type} (type : String) (start : σ) (fields : List (Field σ)) : Decoder σ
  | .table _ entries => decodeFields fields entries start
  | .list _ items => decodePositions fields 0 items start
  | v => .error (.wrongShape v.found ("struct " ++ type))

end Decoder

open Decoder (field)

def OutputForm.decode : Decoder OutputForm :=
  Decoder.variant "RenderMode" OutputForm.name OutputForm.all

def TableStyle.decode : Decoder TableStyle :=
  Decoder.variant "TableStyle" TableStyle.name TableStyle.all

def ColumnName.decode : Decoder ColumnName := fun v => (Decoder.text v).map .ofText

def Override.decode : Decoder Override :=
  Decoder.record "EntityOverride" {} [
    field "default_columns" (Decoder.optional (Decoder.list ColumnName.decode))
      fun v o => { o with defaultColumns := v },
    field "default_sort" (Decoder.optional Decoder.text) fun v o => { o with defaultSort := v }]

def OutputSettings.decode : Decoder OutputSettings :=
  Decoder.record "OutputConfig" {} [
    field "default_mode" OutputForm.decode fun v o => { o with defaultMode := v },
    field "table_style" TableStyle.decode fun v o => { o with tableStyle := v },
    field "color" Decoder.switch fun v o => { o with color := v }]

def LoggingSettings.decode : Decoder LoggingSettings :=
  Decoder.record "LoggingConfig" {} [
    field "enabled" Decoder.switch fun v l => { l with enabled := v },
    field "level" Decoder.text fun v l => { l with level := v },
    field "format" Decoder.text fun v l => { l with format := v },
    field "output" Decoder.text fun v l => { l with output := v },
    field "file" (Decoder.optional Decoder.text) fun v l => { l with file := v },
    field "color" Decoder.switch fun v l => { l with color := v },
    field "modules" (Decoder.map Decoder.text) fun v l => { l with modules := v }]

def Settings.decode : Decoder Settings :=
  Decoder.record "SltableConfig" {} [
    field "output" OutputSettings.decode fun v s => { s with output := v },
    field "logging" LoggingSettings.decode fun v s => { s with logging := v },
    field "entities" (Decoder.map Override.decode) fun v s => { s with entities := v }]

end RecordListing
