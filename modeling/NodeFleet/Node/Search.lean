import NodeFleet.Fleet.Groups
import NodeFleet.Node.Request
import NodeFleet.Node.View

/-!
The list of nodes and its filter.

A keyword is looked for in names and addresses as the pattern `%keyword%`, in which `%` stands for
any text and `_` for any one character. ASCII letters match in either case. U+FFFE and U+FFFF, which
stand for no character, are read as U+FFFD. A pattern and the text it is compared with end at a NUL
character. The members of a group are values of the statement, which takes `maxValues` at most.
-/

namespace NodeFleet.Search

/-- A character as it is compared: a letter of ASCII in lower case, and U+FFFE and U+FFFF as the
replacement character. -/
def foldCase (c : Char) : Char :=
  if 'A' ≤ c && c ≤ 'Z' then Char.ofNat (c.toNat + 32)
  else if c = '\uFFFE' ∨ c = '\uFFFF' then '\uFFFD'
  else c

/-- The ends of a text, from the whole text to nothing. -/
def suffixes : List Char → List (List Char)
  | [] => [[]]
  | c :: cs => (c :: cs) :: suffixes cs

/-- What is left of a text after one given character. -/
def stepChar? (c : Char) : List Char → Option (List Char)
  | [] => none
  | d :: ds => if foldCase c = foldCase d then some ds else none

/--
What may be left of a text after one more character of a pattern, from the longest rest to the
shortest. After a `%` every end of the longest rest may be left.
-/
def step (lefts : List (List Char)) (c : Char) : List (List Char) :=
  if c = '%' then
    match lefts with
    | [] => []
    | longest :: _ => suffixes longest
  else if c = '_' then lefts.filterMap List.tail?
  else lefts.filterMap (stepChar? c)

/-- Whether a pattern matches a whole text. -/
def like (pattern text : List Char) : Bool :=
  (pattern.foldl step [text]).any List.isEmpty

/-- A text up to its first NUL character. -/
def upToNul (s : String) : List Char := s.toList.takeWhile (· ≠ '\x00')

/-- The pattern of a keyword. -/
def pattern (keyword : String) : String := "%" ++ keyword ++ "%"

/-- Whether a keyword matches a text. -/
def found (keyword text : String) : Bool := like (upToNul (pattern keyword)) (upToNul text)

/-- The greatest number of bytes in a pattern. -/
def maxPattern : Nat := 50000

/-- The error of a longer pattern, once it is compared with anything. -/
def tooComplex : Error := .ofDatabase (.query ⟨1, "LIKE or GLOB pattern too complex"⟩)

/-- A criterion that counts only if it is given and not empty. -/
def given (s : Option String) : Option String := s.filter fun t => !t.isEmpty

/-- Whether a node meets the criteria of a filter other than its keyword. -/
def admits (filter : NodeFilter) (members : List Int) (n : Node) : Bool :=
  (match filter.health with
    | some h => n.health == h
    | none => true)
  && (match given filter.region with
    | some r => n.region == r
    | none => true)
  && (match filter.groupId with
    | some _ => members.contains n.id
    | none => true)

/-- The members of the group of a filter. -/
def members (filter : NodeFilter) (f : Fleet) : List Int :=
  match filter.groupId with
  | some id => f.membersOf [id]
  | none => []

/-- The number of values for the criteria of a filter other than its group: one for the health and
the region each, and two for the keyword. -/
def criterionCount (filter : NodeFilter) : Nat :=
  filter.health.isSome.toNat + (given filter.region).isSome.toNat
    + 2 * (given filter.keyword).isSome.toNat

/-- The number of values in the statement of a filter, with one for each member of the group. -/
def valueCount (filter : NodeFilter) (f : Fleet) : Nat :=
  criterionCount filter + (members filter f).length

/-- The nodes of a filter, in the order of their numbers. -/
def select (filter : NodeFilter) (f : Fleet) : Except Error (List Node) := do
  checkValues (valueCount filter f)
  let nodes := f.nodes.filter (admits filter (members filter f))
  match given filter.keyword with
  | none => .ok nodes
  | some keyword =>
    if maxPattern < (pattern keyword).utf8ByteSize ∧ !nodes.isEmpty then .error tooComplex
    else .ok (nodes.filter fun n => found keyword n.name || found keyword n.address)

end NodeFleet.Search

namespace NodeFleet.Fleet

/-- The view of a node. -/
def nodeView (f : Fleet) (n : Node) : NodeView :=
  .of n (f.userCount n.id) (f.tokenInfo n.id).state

/-- One node. -/
def getNode (id : Int) (f : Fleet) : Except Error NodeView :=
  (findNode id f).map f.nodeView

/-- The token states of all nodes that have a token. -/
def tokenStates (f : Fleet) : List (Int × TokenState) :=
  f.tokens.map fun t => (t.nodeId, t.state)

/-- The token state of a node in the list. -/
def listedToken (f : Fleet) (nodeId : Int) : TokenState :=
  (f.tokenStates.lookup nodeId).getD .none

/-- The nodes of a filter as they are shown. -/
def listNodes (filter : NodeFilter) (f : Fleet) : Except Error (List NodeView) :=
  let counts := f.userCounts
  (Search.select filter f).map fun nodes =>
    nodes.map fun n => .of n (counts.of n.id) (f.listedToken n.id)

end NodeFleet.Fleet
