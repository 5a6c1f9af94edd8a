import DeliveryDesk.Fault

/-!
# Notifications

Every action of the operator reports its outcome in short messages. A mistake of the operator
is reported in its own words; any other failure names the action that failed.
-/

namespace DeliveryDesk.Console

/-- Whether a notification reports a success or an error. -/
inductive Level where
  | success
  | error
deriving DecidableEq, Repr

/-- A message about the outcome of an action. -/
structure Notification where
  level : Level
  message : String
deriving DecidableEq, Repr

namespace Notification

/-- The report of a success. -/
def success (message : String) : Notification := ⟨.success, message⟩

/-- The report of an error. -/
def error (message : String) : Notification := ⟨.error, message⟩

/-- The report of a failed action. -/
def failure (action : String) (fault : Fault) : Notification :=
  match fault.kind with
  | .localValidation => error fault.message
  | _ => error ("Failed to " ++ action ++ ": " ++ fault.message)

/-- Whether the notification reports an error. -/
def isError (n : Notification) : Bool := n.level == .error

/-- A success is no error. -/
@[simp]
theorem isError_success (message : String) : (success message).isError = false := rfl

@[simp]
theorem isError_error (message : String) : (error message).isError = true := rfl

/-- Whatever action failed, and for whatever reason, an error is reported. -/
@[simp]
theorem isError_failure (action : String) (fault : Fault) :
    (failure action fault).isError = true := by
  unfold failure
  split <;> rfl

end Notification

end DeliveryDesk.Console
