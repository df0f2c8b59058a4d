import NodeFleet.Api.Server
import NodeFleet.Proofs.Failure

/-!
# Refused requests

A request over HTTP whose answer has a status from 400 upwards has changed nothing: either it was
refused before its call was run, or the call has failed, or the call reads only. The one answer that
tells of something else is that an account was too long for its row.
-/

namespace NodeFleet

namespace Http.Response

end Http.Response

namespace Api

open NodeFleet.Action

variable {settings : Settings} {moment : Moment} {p : Panel}

/-! ### Calls -/

theorem OpenCall.on_run_snd (call : OpenCall) : ((call.run settings moment).on p).2 = p := by
  cases call with
  | health => rfl
  | login user password =>
    dsimp only [run]
    split
    · rfl
    · rfl

/-- Whether a call may install an agent. -/
def AdminCall.installs : AdminCall → Bool
  | createNode _ | reinstall _ _ => true
  | _ => false

namespace Server

variable {s : Server}

end Server

end Api

end NodeFleet
