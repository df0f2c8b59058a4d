/-!
The limit on the number of requests of a client.

Each key has a window of a fixed length that opens with its first request; within a window a fixed
number of requests is let through. Windows that have passed are swept from the table once it has
grown beyond a threshold. Times are readings of a clock in nanoseconds.
-/

namespace NodeFleet.Api

/-- The window of a key: the requests counted in it, and when it was opened. -/
structure Window where
  hits : Nat
  openedAt : Nat
  deriving DecidableEq, Repr

/-- A limit and the windows of the keys that were seen. -/
structure Limiter where
  limit : Nat
  /-- The length of a window. -/
  window : Nat
  windows : List (String × Window)
  deriving DecidableEq, Repr

namespace Limiter

/-- The number of windows beyond which those that have passed are swept. -/
def sweepThreshold : Nat := 1000

/-- A limiter that has seen no request. -/
def fresh (limit window : Nat) : Limiter := ⟨limit, window, []⟩

/-- Whether a window is still open. -/
def isCurrent (l : Limiter) (now : Nat) (w : Window) : Bool := now - w.openedAt < l.window

/-- Removes the windows that have passed, if there are many. -/
def sweep (l : Limiter) (now : Nat) : Limiter :=
  if sweepThreshold < l.windows.length then
    { l with windows := l.windows.filter fun entry => l.isCurrent now entry.2 }
  else l

/-- The window of a key at a time, before its request is counted. -/
def windowAt (l : Limiter) (now : Nat) (key : String) : Window :=
  match l.windows.lookup key with
  | some w => if l.isCurrent now w then w else ⟨0, now⟩
  | none => ⟨0, now⟩

/-- Stores the window of a key. -/
def put (key : String) (w : Window) : List (String × Window) → List (String × Window)
  | [] => [(key, w)]
  | (k, v) :: rest => if k = key then (k, w) :: rest else (k, v) :: put key w rest

/-- Counts a request; the answer tells whether it is let through. -/
def check (l : Limiter) (now : Nat) (key : String) : Bool × Limiter :=
  let swept := l.sweep now
  let w := swept.windowAt now key
  let counted : Window := { w with hits := w.hits + 1 }
  (counted.hits ≤ l.limit, { swept with windows := put key counted swept.windows })

end Limiter

end NodeFleet.Api
