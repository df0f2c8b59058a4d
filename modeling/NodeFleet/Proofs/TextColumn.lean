import NodeFleet.Node.View
import NodeFleet.Proofs.Printed

/-!
# Lists of texts in a column

A list of texts is stored as the text of a JSON array, and reading the column gives the list back.
-/

namespace NodeFleet

/-- Reading a column gives the texts that were stored. -/
@[simp] theorem textsOfColumn_columnOfTexts (texts : List String) :
    textsOfColumn (columnOfTexts texts) = texts := by
  have hread : (Json.list Json.text).ofText (Json.Value.ofTexts texts).render = .ok texts :=
    Json.ofText_list Json.Value.Floatless.str (fun _ => rfl) texts
  unfold textsOfColumn columnOfTexts
  rw [hread]

end NodeFleet
