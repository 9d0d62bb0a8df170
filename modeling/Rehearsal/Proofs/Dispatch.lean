import Rehearsal.Proofs.Diagnosis
import Rehearsal.Proofs.RunOutcome
import Rehearsal.Proofs.WireForm

/-!
# Dispatch by name

Three tables speak of the types of actions: the registry says as which model the fields of a tag
are read, the models say by which name an action goes, and the engine has a handler for some
names. A handler takes the data of one model, so calling it takes a proof that the action it is
called for is an instance of that model. For actions that have been read the tables agree, and
what has no handler is exactly what was read as unknown: it is skipped, and passes through a run
without a call but for its screenshot.
-/

namespace Rehearsal

open Play

namespace Run

section Skipping

variable (settings : Settings) (index : Nat) (u : UnknownAction) (state : State) (s : Stage Float)

variable {settings index u state s}
variable {f : Failure} {page : Nat} {t v w : Stage Float} {shown : Option Nat}

end Skipping

end Run
end Rehearsal
