/-!
Strictly ascending lists of texts.

Texts are compared by their code points, which is also the order of their UTF-8 bytes. `ascending`
sorts a list and keeps one copy of each text, so its result depends on the set of texts alone.
-/

namespace NodeFleet.Text

/-- Puts a text into an ascending list, unless the list has it. -/
def insertAscending (s : String) : List String → List String
  | [] => [s]
  | t :: ts => if s < t then s :: t :: ts else if s = t then t :: ts else t :: insertAscending s ts

/-- The texts of a list, each once, in ascending order. -/
def ascending (ss : List String) : List String :=
  ss.foldr insertAscending []

theorem mem_insertAscending {s x : String} {ts : List String} :
    x ∈ insertAscending s ts ↔ x = s ∨ x ∈ ts := by
  induction ts with
  | nil => simp [insertAscending]
  | cons t ts ih =>
    unfold insertAscending
    split
    · simp
    · split
      · next h => subst h; simp
      · simp only [List.mem_cons, ih]; grind

/-- Sorting adds and loses no text. -/
theorem mem_ascending {x : String} {ss : List String} : x ∈ ascending ss ↔ x ∈ ss := by
  induction ss with
  | nil => simp [ascending]
  | cons s ss ih =>
    have : ascending (s :: ss) = insertAscending s (ascending ss) := rfl
    rw [this, mem_insertAscending, ih, List.mem_cons]

end NodeFleet.Text
