/-!
Sets and properties of code points as run lengths.

A set of characters is given by the lengths of the runs of code points outside and inside it, in
turn, starting outside; a property by the runs of code points with one value, each with its length
and its value. The run of a code point is found by halving.
-/

namespace NodeFleet.Text

/-- The running totals of a list of lengths. -/
def runningTotals (total : Nat) : List Nat → List Nat
  | [] => []
  | n :: ns => (total + n) :: runningTotals (total + n) ns

/-- The number of entries between `low` and `high` of an ascending array that are at most `n`, and
all those before `low`. -/
def countUpTo (bounds : Array Nat) (n low high : Nat) : Nat :=
  if h : low < high then
    let middle := (low + high) / 2
    if bounds.getD middle 0 ≤ n then countUpTo bounds n (middle + 1) high
    else countUpTo bounds n low middle
  else low
termination_by high - low
decreasing_by all_goals omega

/-- A set of code points: the places where it begins or ends, in ascending order. -/
structure RunTable where
  bounds : Array Nat

/-- The set with runs of given lengths. -/
def RunTable.ofLengths (lengths : List Nat) : RunTable := ⟨(runningTotals 0 lengths).toArray⟩

/-- Whether a code point is in the set: an odd number of bounds lie at or before it. -/
def RunTable.contains (t : RunTable) (n : Nat) : Bool :=
  countUpTo t.bounds n 0 t.bounds.size % 2 == 1

/-- A property of code points with numbers for values: the places where the value changes, and the
value before each of them and after the last. -/
structure RunMap where
  bounds : Array Nat
  values : Array Nat

/-- The map of runs, each with its length and its value. The last value holds for all code points
that are left, whatever its length. -/
def RunMap.ofRuns (runs : List (Nat × Nat)) : RunMap :=
  ⟨(runningTotals 0 (runs.dropLast.map (·.1))).toArray, (runs.map (·.2)).toArray⟩

/-- The value of a code point. -/
def RunMap.get (m : RunMap) (n : Nat) : Nat :=
  m.values.getD (countUpTo m.bounds n 0 m.bounds.size) 0

end NodeFleet.Text
