/-!
Texts broken into lines of a greatest width.

A line is broken before a word that does not fit any more, and the spaces before the break are
dropped. A word that is too long for any line stands alone on its line.
-/

namespace NodeFleet.Text

/-- The words of a text, each with the spaces after it; spaces at the start are a word. -/
def spacedWords : List Char → List (List Char)
  | [] => []
  | c :: cs =>
    match spacedWords cs with
    | [] => [[c]]
    | (d :: word) :: more =>
      if c = ' ' ∧ d ≠ ' ' then [c] :: (d :: word) :: more else (c :: d :: word) :: more
    | [] :: more => [c] :: more

/-- A word without the spaces after it. -/
def trimSpaces (word : List Char) : List Char := (word.reverse.dropWhile (· = ' ')).reverse

/-- Adds words to a line. -/
def wrapWords (width : Nat) (line : List Char) : List (List Char) → List (List Char)
  | [] => [trimSpaces line]
  | word :: rest =>
    if width < line.length + (trimSpaces word).length then
      trimSpaces line :: wrapWords width word rest
    else wrapWords width (line ++ word) rest

/-- The lines of a text. -/
def wrapped (width : Nat) (s : String) : List String :=
  match spacedWords s.toList with
  | [] => [""]
  | word :: rest => (wrapWords width word rest).map String.ofList

end NodeFleet.Text
