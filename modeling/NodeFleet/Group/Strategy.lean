import NodeFleet.Naming

/-!
The balancing strategies of a group. The panel stores the name; the balancing is done elsewhere.
-/

namespace NodeFleet

/-- How the load of a group is spread over its nodes. -/
inductive Strategy where
  | roundRobin
  | leastConnections
  | weighted
  | geographic
  deriving DecidableEq, Repr

/-- The name of a strategy. -/
def Strategy.name : Strategy → String
  | .roundRobin => "round-robin"
  | .leastConnections => "least-connections"
  | .weighted => "weighted"
  | .geographic => "geographic"

/-- The names of the strategies. -/
def Strategy.naming : Naming Strategy :=
  ⟨"GroupStrategy",
    [.roundRobin, .leastConnections, .weighted, .geographic].map fun s => (s.name, s)⟩

end NodeFleet
