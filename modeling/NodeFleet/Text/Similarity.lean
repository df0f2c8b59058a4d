/-!
How similar two texts are, by Jaro's measure: one for equal texts, zero for texts without a common
character.

Characters of the two texts match when they are equal and not far apart; each character matches at
most one. The measure is the mean of three shares: the matched part of each text, and the part of
the matches that stand in the same order in both.
-/

namespace NodeFleet.Text

/-- Marks the first unmarked occurrence of a character between two places; `place` is the place of
the head. -/
def markFirst? (c : Char) (low high place : Nat) :
    List (Char × Bool) → Option (List (Char × Bool))
  | [] => none
  | (d, marked) :: rest =>
    if low ≤ place ∧ place < high ∧ c = d ∧ !marked then some ((d, true) :: rest)
    else (markFirst? c low high (place + 1) rest).map ((d, marked) :: ·)

/-- The characters of a text that match, and the marks of the other text; `place` is the place of
the head, and `reach` the distance that a match may have. -/
def matchAll (reach place : Nat) : List Char → List (Char × Bool) → List Char × List (Char × Bool)
  | [], other => ([], other)
  | c :: cs, other =>
    match markFirst? c (place - reach) (place + reach + 1) 0 other with
    | some other =>
      let (found, other) := matchAll reach (place + 1) cs other
      (c :: found, other)
    | none => matchAll reach (place + 1) cs other

/-- The similarity of two texts. -/
def similarity (a b : List Char) : Float :=
  let reach := max a.length b.length / 2 - 1
  let (left, marks) := matchAll reach 0 a (b.map fun c => (c, false))
  let right := (marks.filter (·.2)).map (·.1)
  let crossed := ((left.zip right).countP fun (c, d) => c ≠ d) / 2
  let count := left.length
  if a.isEmpty && b.isEmpty then 1.0
  else if count = 0 then 0.0
  else
    (count.toFloat / a.length.toFloat + count.toFloat / b.length.toFloat
      + (count - crossed).toFloat / count.toFloat) / 3.0

/-- The text most similar to a text, if its similarity is above the threshold; the last of several
that are equally similar. -/
def mostSimilar? (threshold : Float) (s : String) (known : List String) : Option String :=
  (known.foldl (fun (best : Float × Option String) t =>
    let value := similarity s.toList t.toList
    if value > threshold && value ≥ best.1 then (value, some t) else best) (0.0, none)).2

end NodeFleet.Text
