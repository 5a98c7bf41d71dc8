import Probing.Text.Basic

/-!
# Coloured text

Text for a terminal is coloured by control sequences around it. A colour ends before every line
break and starts again behind it, and a text that ends the colour itself starts it again.

## Main definitions

* `Style`: whether colours are used
* `Style.paint`: a text in a colour
-/

namespace Probing

/-- Whether text is coloured. -/
inductive Style where
  | plain
  | coloured
deriving DecidableEq, Repr

/-- The colours in use. -/
inductive Colour where
  | red
  | green
  | white
  | gray
deriving DecidableEq, Repr

namespace Colour

/-- The sequence that starts a colour. -/
def start : Colour → Text
  | red => "\x1b[31m"
  | green => "\x1b[32m"
  | white => "\x1b[37m"
  | gray => "\x1b[90m"

/-- The sequence that ends every colour. -/
def stop : Text := "\x1b[39m"

/-- Starts the colour again behind every end of a colour inside the text. `done` holds the units
already passed, the last one first. -/
def restart (colour : Colour) (done : Text) : Text → Text
  | [] => done.reverse
  | u :: rest =>
    if stop.isPrefixOf (u :: rest) then
      restart colour (colour.start.reverse ++ stop.reverse ++ done) (rest.drop 4)
    else restart colour (u :: done) rest
termination_by text => text.length
decreasing_by all_goals simp only [List.length_cons, List.length_drop]; omega

/-- The end of a line in a colour. A carriage return belongs to the line break. -/
def endLine (line : Text) : Text :=
  if line.getLast? = some (unit '\r') then line.dropLast ++ stop ++ "\r" else line ++ stop

/-- The text with the colour interrupted at every line break. -/
def acrossLines (colour : Colour) (text : Text) : Text :=
  let lines := text.lines
  Text.join ("\n" ++ colour.start) (lines.dropLast.map endLine ++ lines.getLast?.toList)

end Colour

namespace Style

/-- A text in a colour. An empty text needs none. -/
def paint (style : Style) (colour : Colour) (text : Text) : Text :=
  match style with
  | plain => text
  | coloured =>
    if text = [] then []
    else colour.start ++ colour.acrossLines (colour.restart [] text) ++ Colour.stop

end Style

end Probing
