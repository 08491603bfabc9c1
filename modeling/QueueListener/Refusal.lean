import QueueListener.Failure
import QueueListener.Status
/-!
# Refusals

The errors that a container answers to a call, with their wording. A refused call changes nothing.
-/

namespace QueueListener

/-- Why a container refuses a call. -/
inductive Refusal
  /-- The settings contradict each other. -/
  | settings (reason : String)
  | illegalState (state : ContainerState) (operation : String)
  | duplicateQueue (queue : String)
  | client (error : ClientError)
  deriving DecidableEq, Repr

/-- The wording of the refusal. -/
def Refusal.message : Refusal → String
  | .settings reason => "Invalid container configuration: " ++ reason
  | .illegalState state operation =>
    "Cannot " ++ operation ++ " while the container is " ++ state.text
  | .duplicateQueue queue => "Queue '" ++ queue ++ "' is already registered"
  | .client error => error.message

end QueueListener
