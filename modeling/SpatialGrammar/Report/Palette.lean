/-!
# Colours of terminals

Styles that a terminal shows between an opening and a closing sequence. A palette that is switched
off leaves texts as they are.
-/

namespace SpatialGrammar.Report

/-- A way to show a text. -/
inductive Style where
  | bold
  | dim
  | green
  | yellow
  | blue
  | cyan
  | gray
  deriving DecidableEq, Repr

/-- The sequence that begins a style. -/
def Style.opening : Style → String
  | bold => "\x1b[1m"
  | dim => "\x1b[2m"
  | green => "\x1b[32m"
  | yellow => "\x1b[33m"
  | blue => "\x1b[34m"
  | cyan => "\x1b[36m"
  | gray => "\x1b[90m"

/-- The sequence that ends every style. -/
def closing : String := "\x1b[0m"

/-- Whether styles are shown. -/
structure Palette where
  enabled : Bool

/-- A text in a style. -/
def Palette.paint (p : Palette) (style : Style) (text : String) : String :=
  if p.enabled then style.opening ++ text ++ closing else text

end SpatialGrammar.Report
