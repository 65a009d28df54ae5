/-!
# Styled text for terminals

A style is written as an escape sequence before the text, and taken back by the **reset** sequence
after it. A reset inside the text would end the style too early, so the opening sequence follows
each of them again.

That is one way to style text, `Style.paint`; what is written with styles may take any `Painter`.
-/

namespace RenderTargets.Log

/-- A color of the foreground. -/
inductive Color where
  /-- Red. -/
  | red
  /-- Green. -/
  | green
  /-- Yellow. -/
  | yellow
  /-- Cyan. -/
  | cyan
  /-- White. -/
  | white
  /-- Gray. -/
  | brightBlack
  /-- Light blue. -/
  | brightBlue
  deriving DecidableEq, Inhabited, Repr

/-- The number of the color in an escape sequence. -/
def Color.code : Color → String
  | red => "31"
  | green => "32"
  | yellow => "33"
  | cyan => "36"
  | white => "37"
  | brightBlack => "90"
  | brightBlue => "94"

/-- How text looks. -/
structure Style where
  /-- The color. -/
  color : Color
  /-- Thick letters. -/
  bold : Bool := false
  deriving DecidableEq, Inhabited, Repr

/-- What writes text in a style, with or without colors. -/
abbrev Painter := Style → (colors : Bool) → String → String

namespace Style

/-- The sequence that starts the style. -/
def opening (s : Style) : String :=
  "\x1b[" ++ (if s.bold then "1;" else "") ++ s.color.code ++ "m"

/-- The sequence that ends every style. -/
def reset : String := "\x1b[0m"

/-- The text with `start` after each reset sequence in it. -/
def reopen (start : List Char) : List Char → List Char
  | '\x1b' :: '[' :: '0' :: 'm' :: rest =>
    '\x1b' :: '[' :: '0' :: 'm' :: (start ++ reopen start rest)
  | c :: rest => c :: reopen start rest
  | [] => []

/-- The text in the style, or as it is where there are no colors. -/
def paint (s : Style) (colors : Bool) (text : String) : String :=
  if colors then
    s.opening ++ String.ofList (reopen s.opening.toList text.toList) ++ reset
  else text

end Style

end RenderTargets.Log
