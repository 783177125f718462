import RecordListing.Text.Parts
import RecordListing.Text.Width

namespace RecordListing

/-!
# Tables

A table is a header and rows of texts. A text with line breaks takes several
lines. Every column is as wide as its widest line and has a blank on both sides;
the style says what is drawn between and around the cells.
-/

inductive TableStyle where
  | plain
  | ascii
  | utf8
  deriving DecidableEq

def TableStyle.all : List TableStyle := [.plain, .ascii, .utf8]

def TableStyle.name : TableStyle → String
  | .plain => "plain"
  | .ascii => "ascii"
  | .utf8 => "utf8"

namespace Table

/-- A horizontal line: its ends, what fills it, and what stands between columns. -/
structure Line where
  left : String
  fill : String
  cross : String
  right : String

structure Borders where
  top : Option Line
  belowHeader : Option Line
  betweenRows : Option Line
  bottom : Option Line
  left : String
  between : String
  right : String

def borders : TableStyle → Borders
  | .plain => ⟨none, none, none, none, "", "", ""⟩
  | .ascii =>
    { top := some ⟨"+", "-", "+", "+"⟩
      belowHeader := some ⟨"+", "=", "=", "+"⟩
      betweenRows := some ⟨"|", "-", "+", "|"⟩
      bottom := some ⟨"+", "-", "+", "+"⟩
      left := "|", between := "|", right := "|" }
  | .utf8 =>
    { top := some ⟨"┌", "─", "┬", "┐"⟩
      belowHeader := some ⟨"╞", "═", "╪", "╡"⟩
      betweenRows := some ⟨"├", "╌", "┼", "┤"⟩
      bottom := some ⟨"└", "─", "┴", "┘"⟩
      left := "│", between := "┆", right := "│" }

def repeated (s : String) (n : Nat) : String := (List.replicate n s).foldl (· ++ ·) ""

/-- The lines of a cell. -/
abbrev Cell := List String

def Cell.ofText (s : String) : Cell := Text.parts '\n' s

def Cell.width (c : Cell) : Nat := (c.map Text.width).foldl max 0

/-- Exactly `count` cells, empty ones added. -/
def fillRow (count : Nat) (row : List Cell) : List Cell :=
  row ++ List.replicate (count - row.length) [""]

/-- The width of every column, at least one. Widths have no bound here, so the lines of
a table are taken to be narrower than 65536 columns. -/
def widths (rows : List (List Cell)) : List Nat :=
  rows.foldl (fun ws row => ws.zipWith max (row.map Cell.width)) (
    List.replicate ((rows.map List.length).foldl max 0) 1)

/-- A field is a blank, the text, blanks up to the width, and a blank. -/
def field (width : Nat) (text : String) : String :=
  " " ++ text ++ repeated " " (width - Text.width text) ++ " "

def contentLine (b : Borders) (fields : List String) : String :=
  b.left ++ Text.join b.between fields ++ b.right

/-- The lines of a row, as many as its tallest cell has. -/
def block (b : Borders) (ws : List Nat) (row : List Cell) : List String :=
  (List.range ((row.map List.length).foldl max 0)).map fun i =>
    contentLine b (ws.zipWith (fun w c => field w (c.getD i "")) row)

def Line.write (l : Line) (ws : List Nat) : String :=
  l.left ++ Text.join l.cross (ws.map fun w => repeated l.fill (w + 2)) ++ l.right

def lineOf (l : Option Line) (ws : List Nat) : List String := (l.map (·.write ws)).toList

/-- The lines of the rows with a separator between each two. -/
def body (b : Borders) (ws : List Nat) : List (List Cell) → List String
  | [] => []
  | [row] => block b ws row
  | row :: rest => block b ws row ++ lineOf b.betweenRows ws ++ body b ws rest

def lines (style : TableStyle) (header : List String) (rows : List (List String)) : List String :=
  let b := borders style
  let cells := (header :: rows).map (·.map Cell.ofText)
  let count := (cells.map List.length).foldl max 0
  let filled := cells.map (fillRow count)
  let ws := widths filled
  match filled with
  | [] => []
  | head :: rest =>
    lineOf b.top ws ++ block b ws head ++ lineOf b.belowHeader ws ++ body b ws rest ++
      lineOf b.bottom ws

def render (style : TableStyle) (header : List String) (rows : List (List String)) : String :=
  Text.join "\n" (lines style header rows)

end Table

end RecordListing
