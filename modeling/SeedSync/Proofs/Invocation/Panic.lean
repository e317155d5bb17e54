import Mathlib
import SeedSync.Proofs.Invocation.Midway
import SeedSync.Proofs.Matching.Scan
import SeedSync.Proofs.Window.Bounds

/-!
Where an invocation may panic: at the first window of a scan, if two blocks are longer than any
window. All else that goes wrong is an error that is reported.
-/

namespace SeedSync

/-- An error, if there is one, that can be reported. -/
def NoPanic {α : Type} (r : Except Error α) : Prop := r ≠ .error .panic

namespace NoPanic

variable {α β γ : Type} {e : Error}

@[simp] lemma ok (a : α) : NoPanic (.ok a) := by simp [NoPanic]

@[simp] lemma error : NoPanic (.error e : Except Error α) ↔ e ≠ .panic := by simp [NoPanic]

lemma pass {p : Except Error α × γ} (h : NoPanic p.1) {x : γ} (heq : p = (.error e, x)) :
    NoPanic (.error e : Except Error β) := by
  rw [heq, error] at h
  exact error.mpr h

lemma inPhase (phase : Phase) (r : Except IoError α) : NoPanic (inPhase phase r) := by
  cases r <;> simp [SeedSync.inPhase]

end NoPanic

/-! ### Control files -/

namespace ControlFile

end ControlFile

/-! ### Transfers -/

namespace Client

variable (c : Client) (url : Url) (range : Option String) (credentials : CredentialMap)

end Client

/-! ### Assemblies -/

namespace Assembly

end Assembly

/-! ### Scans -/

namespace Scan

variable {c : ControlFile} {room : ℕ}

end Scan

/-! ### Invocations -/

namespace Invocation

variable {options : Options} {uri : String} {files : Tree} {client : Client}
  {journal : Array Event}

end Invocation

end SeedSync
