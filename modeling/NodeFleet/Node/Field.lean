import NodeFleet.Error
import NodeFleet.Text.Ascending
import NodeFleet.Text.Blank
import NodeFleet.Text.Integer

/-!
The rules for the fields that an administrator sets.

Each rule takes a value as given to the value as stored, or refuses it. A stored value passes its
rule again unchanged.
-/

namespace NodeFleet.Field

/-- The greatest number of characters in a name. -/
def maxNameLength : Nat := 64

/-- The name of a node or a group: trimmed, not empty, and not too long. -/
def name (s : String) : Except Error String :=
  let trimmed := Text.trim s
  if trimmed.isEmpty then .error (.validation "name обязателен")
  else if maxNameLength < trimmed.length then
    .error (.validation ("name длиннее " ++ Text.showNat maxNameLength ++ " символов"))
  else .ok trimmed

/-- A port from 1 to 65535. -/
def port (n : Int) : Except Error Int :=
  if 1 ≤ n ∧ n ≤ 65535 then .ok n
  else .error (.validation ("port вне диапазона 1–65535: " ++ Text.showInt n))

/-- The address of a node: trimmed, not empty, without blanks and slashes. -/
def address (s : String) : Except Error String :=
  let trimmed := Text.trim s
  if trimmed.isEmpty then .error (.validation "address обязателен")
  else if trimmed.toList.any Text.isBlank || trimmed.toList.contains '/' then
    .error (.validation ("Некорректный address: " ++ trimmed))
  else .ok trimmed

/-- A weight: positive, and at most a signed number of 32 bits. -/
def weight (n : Int) : Except Error Int :=
  if 1 ≤ n ∧ n ≤ Text.maxInt32 then .ok n
  else .error (.validation "weight должен быть положительным")

/-- The greatest number of users of a node; zero stands for no limit. -/
def maxUsers (n : Int) : Except Error Int :=
  if 0 ≤ n ∧ n ≤ Text.maxInt32 then .ok n
  else .error (.validation "max_users не может быть отрицательным")

/-- One tag: trimmed and not empty. -/
def tag (s : String) : Except Error String :=
  let trimmed := Text.trim s
  if trimmed.isEmpty then .error (.validation "Пустой тег") else .ok trimmed

/-- The tags of a node: ascending, each once. -/
def tags (ss : List String) : Except Error (List String) :=
  (ss.mapM tag).map Text.ascending

end NodeFleet.Field
