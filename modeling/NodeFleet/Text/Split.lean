/-!
Cutting a list of characters at a separator.

`splitAll` and `joinAll` undo each other on pieces without the separator; `splitFirst?` cuts at the
first separator only.
-/

namespace NodeFleet.Text

/-- The pieces between separators; there is always at least one. -/
def splitAll (sep : Char) : List Char → List (List Char)
  | [] => [[]]
  | c :: cs =>
    if c = sep then [] :: splitAll sep cs
    else
      match splitAll sep cs with
      | [] => [[c]]
      | piece :: more => (c :: piece) :: more

/-- The pieces with separators between them. -/
def joinAll (sep : List Char) : List (List Char) → List Char
  | [] => []
  | [piece] => piece
  | piece :: next :: more => piece ++ sep ++ joinAll sep (next :: more)

/-- The parts before and after the first separator. -/
def splitFirst? (sep : Char) : List Char → Option (List Char × List Char)
  | [] => none
  | c :: cs =>
    if c = sep then some ([], cs)
    else (splitFirst? sep cs).map fun (before, after) => (c :: before, after)

/-- The part after a given beginning. -/
def afterStart? : List Char → List Char → Option (List Char)
  | [], rest => some rest
  | _ :: _, [] => none
  | s :: ss, c :: cs => if s = c then afterStart? ss cs else none

theorem splitAll_ne_nil (sep : Char) (cs : List Char) : splitAll sep cs ≠ [] := by
  cases cs with
  | nil => simp [splitAll]
  | cons c cs =>
    simp only [splitAll]
    split
    · simp
    · split <;> simp

/-- A piece without separators is one piece. -/
theorem splitAll_of_not_mem {sep : Char} {cs : List Char} (h : sep ∉ cs) :
    splitAll sep cs = [cs] := by
  induction cs with
  | nil => rfl
  | cons c cs ih =>
    simp only [List.mem_cons, not_or] at h
    simp [splitAll, ih h.2, Ne.symm h.1]

/-- Cutting puts a separator-free beginning first. -/
theorem splitAll_append {sep : Char} {piece : List Char} (cs : List Char) (h : sep ∉ piece) :
    splitAll sep (piece ++ sep :: cs) = piece :: splitAll sep cs := by
  induction piece with
  | nil => simp [splitAll]
  | cons c piece ih =>
    simp only [List.mem_cons, not_or] at h
    simp [splitAll, ih h.2, Ne.symm h.1]

/-- Cutting undoes joining. -/
theorem splitAll_joinAll {sep : Char} {pieces : List (List Char)} (hne : pieces ≠ [])
    (h : ∀ piece ∈ pieces, sep ∉ piece) : splitAll sep (joinAll [sep] pieces) = pieces := by
  induction pieces with
  | nil => exact absurd rfl hne
  | cons piece more ih =>
    cases more with
    | nil => exact splitAll_of_not_mem (h piece (by simp))
    | cons next more =>
      simp only [joinAll, List.append_assoc, List.singleton_append]
      rw [splitAll_append _ (h piece (by simp)),
        ih (by simp) fun p hp => h p (List.mem_cons_of_mem _ hp)]

end NodeFleet.Text
