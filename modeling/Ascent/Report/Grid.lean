import Ascent.Text.Width

/-!
# Text tables

A grid of texts between rules.  Every column is as wide as its widest text, the
heading included, and texts are centred: of an odd gap the larger part stands
on the right.  The texts are ASCII, so that every character takes one column.

A caption below the grid is broken into lines of nearly equal length.  It may
hold any characters, and its words are measured in columns.
-/

namespace Ascent.Report.Grid

/-- A text in the middle of a column. -/
def centre (width : Nat) (text : String) : String :=
  let gap := width - text.length
  let left := gap / 2
  "".pushn ' ' left ++ text ++ "".pushn ' ' (gap - left)

/-- The width of every column of rows. -/
def widths : List (List String) → List Nat
  | [] => []
  | row :: rest => combine (row.map String.length) (widths rest)
where
  /-- The larger width of each column. -/
  combine : List Nat → List Nat → List Nat
    | a :: as, b :: bs => max a b :: combine as bs
    | as, [] => as
    | [], bs => bs

/-- The rule between parts of a grid. -/
def rule (widths : List Nat) : String :=
  "+" ++ String.join (widths.map fun width => "".pushn '-' (width + 2) ++ "+") ++ "\n"

/-- One row of a grid. -/
def line (widths : List Nat) (row : List String) : String :=
  "|" ++ String.join ((widths.zip row).map fun (width, text) => " " ++ centre width text ++ " |") ++
    "\n"

/-! ## Captions -/

/-- A word of a caption with the number of its columns. -/
structure Word where
  text : String
  width : Nat

/-- Measure a word. -/
def Word.ofText (text : String) : Word :=
  ⟨text, Text.width text⟩

/-- The length of words on one line. -/
def lineLength (words : List Word) : Nat :=
  words.foldl (fun length word => length + word.width) (words.length - 1)

/-- The penalty for a line that is too long. -/
def penalty : Nat :=
  100000

/-- How far a line is from the wanted length. -/
def raggedness (limit : Nat) (words : List Word) : Nat :=
  let length := lineLength words
  let distance := max limit length - min limit length
  distance * distance + (if limit < length then penalty else 0)

/-- The best way to break words into lines: their total raggedness, which does
not count the last line, and the lines.  `front` holds the words of the current
line, in reverse, and `best` the best way so far to end it. -/
def breakAt (limit : Nat) (tails : List (Nat × List (List Word))) :
    (front : List Word) → (best : Option (Nat × List (List Word))) → List Word →
      Option (Nat × List (List Word))
  | _, best, [] => best
  | front, best, word :: rest =>
      let front := word :: front
      match tails with
      | [] => best
      | (cost, lines) :: tails =>
          let total := raggedness limit front.reverse + cost
          let better :=
            match best with
            | none => true
            | some (known, _) => total < known
          breakAt limit tails front
            (if better && !rest.isEmpty then some (total, front.reverse :: lines) else best) rest

/-- The best breaks of all ends of a list of words, the longest one first. -/
def breaks (limit : Nat) : List Word → List (Nat × List (List Word))
  | [] => [(0, [])]
  | word :: rest =>
      let tails := breaks limit rest
      let all := word :: rest
      let here :=
        if lineLength all ≤ limit then (0, [all])
        else (breakAt limit tails [] none all).getD (0, [all])
      here :: tails

/-- The lines of a caption for a grid of a given width.  A word that is longer
makes the lines as long as itself. -/
def captionLines (width : Nat) (caption : String) : List String :=
  let words := ((caption.map fun c => if c == '\n' then ' ' else c).splitOn " ").map Word.ofText
  let limit := words.foldl (fun limit word => max limit word.width) width
  match breaks limit words with
  | (_, lines) :: _ => lines.map fun words => " ".intercalate (words.map (·.text))
  | [] => []

/-- A grid with its heading, its rows and an optional caption. -/
def render (heading : List String) (rows : List (List String)) (caption : Option String) : String :=
  let widths := widths (heading :: rows)
  let separator := rule widths
  let body := String.join (rows.map (line widths))
  let captionText :=
    match caption with
    | some text =>
        let width := widths.foldl (· + ·) (3 * widths.length + 2)
        String.join ((captionLines width text).map (· ++ "\n"))
    | none => ""
  separator ++ line widths heading ++ separator ++ body ++ separator ++ captionText

end Ascent.Report.Grid
