import SpatialGrammar.Plane.Workings
import SpatialGrammar.Text.Blank

/-!
# Sheets

A sheet holds texts in cells. A cell usually covers one grid point; merging makes one cell out of
the points of a box, and every point that it covers leads to it. Each cell is stored under its
first corner, and cells are listed row by row.
-/

namespace SpatialGrammar

/-- A text and the box that it covers. -/
structure Cell where
  text : String
  box : Box
  deriving DecidableEq, Repr

/-- Whether a cell covers several grid points. -/
def Cell.isMerged (c : Cell) : Bool := decide (1 < c.box.area)

/-- Cells on the grid, the boxes that were merged, and how far the cells have reached. -/
structure Sheet where
  /-- The cells, in the order of their rows and, within a row, of their columns. -/
  cells : List Cell
  /-- The boxes that were merged. -/
  spans : List Box
  width : Int
  height : Int
  deriving DecidableEq

namespace Sheet

/-- The sheet without cells. -/
def empty : Sheet := ⟨[], [], 0, 0⟩

instance : Inhabited Sheet := ⟨empty⟩

/-- The corner under which the cell over a point is stored: that of the merged box around the
point, or the point itself. -/
def anchor (s : Sheet) (p : Point) : Point :=
  match s.spans.find? fun b => b.containsPoint p with
  | some b => b.corner
  | none => p

/-- The cell that is stored under a corner. -/
def stored? (s : Sheet) (p : Point) : Option Cell := s.cells.find? fun c => c.box.corner == p

/-- The cell over a point. -/
def cellAt? (s : Sheet) (p : Point) : Option Cell := s.stored? (s.anchor p)

/-- The text over a point. -/
def textAt? (s : Sheet) (p : Point) : Option String := (s.cellAt? p).map (·.text)

/-- Rows come first, then columns. -/
def rowMajor (p q : Point) : Bool := decide (p.y < q.y) || (decide (p.y = q.y) && decide (p.x < q.x))

/-- Puts a cell in its place, taking the place of a cell under the same corner. -/
def insertCell (c : Cell) : List Cell → List Cell
  | [] => [c]
  | d :: rest =>
    if c.box.corner = d.box.corner then c :: rest
    else if rowMajor c.box.corner d.box.corner then c :: d :: rest
    else d :: insertCell c rest

/-- Stores a cell and extends the reach of the sheet. -/
def store (s : Sheet) (c : Cell) : Sheet :=
  { s with
    cells := insertCell c s.cells
    width := max s.width c.box.right
    height := max s.height c.box.bottom }

/-- Writes a text into the cell over a point; a blank text removes a cell, unless it is merged. -/
def set (s : Sheet) (p : Point) (text : String) : Sheet :=
  let corner := s.anchor p
  let old := s.stored? corner
  if Text.isBlankText text then
    if old.any fun c => !c.isMerged then
      { s with cells := s.cells.filter fun c => c.box.corner != corner }
    else s
  else s.store ⟨text, (old.map (·.box)).getD (Box.unit p.x p.y)⟩

/-- The workings of writing a text. -/
def setWorkings (s : Sheet) (p : Point) (text : String) : List Int :=
  if Text.isBlankText text then []
  else ((((s.stored? (s.anchor p)).map (·.box)).getD (Box.unit p.x p.y))).edgeWorkings

/-- Whether a box can be merged: it is not empty and meets no merged box. -/
def canMerge (s : Sheet) (b : Box) : Bool :=
  !b.isEmpty && !s.spans.any fun span => (span.inter? b).isSome

/-- Merges a box, if possible, into one cell with the text of its first corner. -/
def merge (s : Sheet) (b : Box) : Sheet :=
  if s.canMerge b then
    let text := ((s.stored? b.corner).map (·.text)).getD ""
    let kept := { s with
      cells := s.cells.filter fun c => !b.containsPoint c.box.corner
      spans := b :: s.spans }
    kept.store ⟨text, b⟩
  else s

/-- The workings of merging a box. -/
def mergeWorkings (b : Box) : List Int := if b.isEmpty then [] else b.edgeWorkings

/-- The box from the origin to where the cells have reached. -/
def bounds (s : Sheet) : Box := Box.ofSizes 0 0 s.width s.height

/-- Writes texts from left to right. -/
def setRow (y : Int) (s : Sheet) (texts : List String) : Sheet :=
  texts.zipIdx.foldl (fun s (text, x) => s.set ⟨x, y⟩ text) s

/-- Writes rows of texts from top to bottom. -/
def ofRows (rows : List (List String)) : Sheet :=
  rows.zipIdx.foldl (fun s (row, y) => s.setRow y row) empty

/-- The sheet with one cell for each character that is not blank. -/
def ofChars (text : String) : Sheet :=
  ofRows ((Text.lines text.toList).map fun line => line.map fun c => String.ofList [c])

/-- The sheet with one row for each line and one cell for each field between delimiters, which is
trimmed. -/
def ofDelimited (text : String) (delimiter : Char) : Sheet :=
  ofRows ((Text.lines text.toList).map fun line =>
    (Text.fields (· == delimiter) line).map fun field => String.ofList (Text.trim field))

/-- The cells whose first corner lies in a window. -/
def cellsIn (s : Sheet) (window : Box) : List Cell :=
  s.cells.filter fun c => window.containsPoint c.box.corner

/-- The texts of the cells in a window, one after the other. -/
def textIn (s : Sheet) (window : Box) : String :=
  String.join ((s.cellsIn window).map (·.text))

/-- The first character over a point, a dot if there is none. -/
def showPoint (s : Sheet) (p : Point) : Char :=
  (((s.textAt? p).map String.toList).bind List.head?).getD '.'

/-- A window with one character for each point and one line for each row. -/
def showIn (s : Sheet) (window : Box) : String :=
  String.join ((List.range window.height).map fun (j : Nat) =>
    String.ofList (((List.range window.width).map fun (i : Nat) =>
      s.showPoint ⟨window.left + i, window.top + j⟩) ++ ['\n']))

/-- The workings of looking at a window. -/
def windowWorkings (s : Sheet) (window : Box) : List Int :=
  (s.cells.flatMap fun c => window.containsPointWorkings c.box.corner)
    ++ [window.bottom] ++ if window.height = 0 then [] else [window.right]

end Sheet

end SpatialGrammar
