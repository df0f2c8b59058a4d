import NodeFleet.Fleet.Panel
import NodeFleet.Install.Run

/-!
The stored account of the last installation on a node.
-/

namespace NodeFleet

/-- An account as a row. -/
def InstallResult.toRecord (r : InstallResult) (nodeId : Int) : InstallRecord where
  nodeId := nodeId
  success := r.success
  failedStep := r.failedStep
  errorCode := r.errorCode
  steps := (Json.Value.arr (r.steps.map InstallStep.toJson)).render
  logs := r.logs
  startedAt := r.startedAt
  finishedAt := r.finishedAt

/-- The account of a row. The last completed step is found from the steps. -/
def InstallRecord.toResult (r : InstallRecord) : Except Error InstallResult :=
  match (Json.list InstallStep.decoder).ofText r.steps with
  | .error e => .error (.ofJson e.message)
  | .ok steps =>
    .ok
      { success := r.success
        steps := steps
        logs := r.logs
        failedStep := r.failedStep
        lastCompletedStep := InstallResult.lastCompletedOf steps
        errorCode := r.errorCode
        startedAt := r.startedAt
        finishedAt := r.finishedAt }

namespace InstallRecord

/-- The bytes of a number, at seven bits a byte. -/
def numberBytes (n : Nat) : Nat := n.log2 / 7 + 1

/-- The bytes of a text in a row: those that tell its length, and its own. -/
def textBytes : Option String → Nat
  | some s => numberBytes (2 * s.utf8ByteSize + 13) + s.utf8ByteSize
  | none => 1

/-- The bytes of a row. There is one for the length of its head; the number of the node and the
outcome take one each. -/
def storedBytes (r : InstallRecord) : Nat :=
  3 + textBytes r.failedStep + textBytes r.errorCode + textBytes (some r.steps)
    + textBytes (some r.logs) + textBytes (some r.startedAt) + textBytes (some r.finishedAt)

end InstallRecord

namespace Fleet

/-- Stores a row in the place of the one of its node, or as a new row. -/
def putInstall (record : InstallRecord) (f : Fleet) : Fleet :=
  { f with installs := upsert (·.nodeId) record f.installs }

/-- Stores the account of an installation, unless its row is too long. -/
def saveInstall (record : InstallRecord) : Transaction Unit := do
  Transaction.check (if maxRow < record.storedBytes then .error rowTooBig else .ok ())
  Transaction.change (putInstall record)

/-- The account of the last installation on a node, if there was one. -/
def loadInstall (nodeId : Int) (f : Fleet) : Except Error (Option InstallResult) :=
  match f.install? nodeId with
  | none => .ok none
  | some record => record.toResult.map some

end Fleet

end NodeFleet
