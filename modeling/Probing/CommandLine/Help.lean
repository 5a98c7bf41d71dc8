import Probing.CommandLine.Flag

/-!
# Help pages

A help page shows how a command is called, what it does, its flags and its subcommands. Terms stand
in a column as wide as the longest of them, explanations next to it, broken between words.

## Main definitions

* `Help.Page`: what a help page says
* `Help.Page.text`: the page as it is shown
-/

namespace Probing.CommandLine.Help

/-- The width of a page. -/
def pageWidth : Nat := 80

/-- A term with its explanation. -/
structure Item where
  term : Text
  description : Text

/-- What a help page says. -/
structure Page where
  usage : Text
  description : Text
  flags : List Item
  commands : List Item := []

/-- The item of a flag. -/
def itemOf (flag : Flag) : Item :=
  ⟨flag.term, flag.description⟩

/-- The words of a text. -/
def words (t : Text) : List Text :=
  t.foldr (fun u later =>
    match later with
    | [] => [[u]]
    | word :: rest => if u = unit ' ' then [] :: word :: rest else (u :: word) :: rest) [[]]

/-- Fills lines of at most `width` units with words. `line` is the line being filled. -/
def fill (width : Nat) (line : Text) : List Text → List Text
  | [] => [line]
  | word :: rest =>
    if line.length + 1 + word.length ≤ width then
      fill width (line ++ unit ' ' :: word) rest
    else line :: fill width word rest

/-- A text broken into lines of at most `width` units. -/
def wrap (width : Nat) (t : Text) : List Text :=
  match words t with
  | [] => []
  | word :: rest => fill width word rest

/-- A text padded with spaces. -/
def pad (width : Nat) (t : Text) : Text :=
  t ++ List.replicate (width - t.length) (unit ' ')

/-- The lines of an item whose term stands in a column of the given width. -/
def itemLines (termWidth : Nat) (item : Item) : List Text :=
  let margin := termWidth + 4
  match wrap (pageWidth - margin - 1) item.description with
  | [] => [pad margin ("  " ++ item.term)]
  | first :: rest =>
    (pad margin ("  " ++ item.term) ++ first) :: rest.map fun line => pad margin [] ++ line

/-- A section of a page, absent when it has no items. -/
def sectionLines (termWidth : Nat) (title : Text) (items : List Item) : List Text :=
  if items.isEmpty then [] else [] :: title :: items.flatMap (itemLines termWidth)

/-- A page as it is shown. -/
def Page.text (page : Page) : Text :=
  let termWidth := ((page.flags ++ page.commands).map fun item => item.term.length).foldl max 0
  Text.unlines (["Usage: " ++ page.usage, [], page.description]
    ++ sectionLines termWidth "Options:" page.flags
    ++ sectionLines termWidth "Commands:" page.commands) ++ "\n"

end Probing.CommandLine.Help
