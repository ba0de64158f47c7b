import BulkWrite.Failure.Signals

/-!
Chains of causes. An error may have a cause, which is again an error; a chain
may be endless, since an error may be its own cause. Only its outermost entries
are ever looked at.
-/

namespace BulkWrite

/-- A type of errors that report what they know and name their cause. -/
class Traceable (ε : Type) where
  report : ε → Report
  cause : ε → Option ε

def maxChainDepth : Nat := 32

section

variable {ε : Type}

/-- An error and its causes, outermost first, up to a bound. -/
def chainUpTo (cause : ε → Option ε) : Nat → ε → List ε
  | 0, _ => []
  | bound + 1, error =>
      error :: match cause error with
        | some inner => chainUpTo cause bound inner
        | none => []

@[simp] theorem chainUpTo_zero (cause : ε → Option ε) (error : ε) :
    chainUpTo cause 0 error = [] := rfl

theorem chainUpTo_of_root {cause : ε → Option ε} {error : ε} (bound : Nat)
    (root : cause error = none) :
    chainUpTo cause (bound + 1) error = [error] := by
  simp [chainUpTo, root]

theorem chainUpTo_of_cause {cause : ε → Option ε} {error inner : ε}
    (bound : Nat) (because : cause error = some inner) :
    chainUpTo cause (bound + 1) error =
      error :: chainUpTo cause bound inner := by
  simp [chainUpTo, because]

theorem length_chainUpTo_le (cause : ε → Option ε) (bound : Nat) (error : ε) :
    (chainUpTo cause bound error).length ≤ bound := by
  induction bound generalizing error with
  | zero => simp
  | succ bound ih =>
      cases because : cause error with
      | none => simp [chainUpTo_of_root bound because]
      | some inner =>
          rw [chainUpTo_of_cause bound because, List.length_cons]
          exact Nat.succ_le_succ (ih inner)

def causeChain [Traceable ε] (error : ε) : List ε :=
  chainUpTo Traceable.cause maxChainDepth error

end

/-- An error given by the reports along its chain. The innermost one has no
cause, or is its own. -/
inductive Failure where
  | root (report : Report)
  | endless (report : Report)
  | wrap (report : Report) (cause : Failure)

namespace Failure

def report : Failure → Report
  | .root report => report
  | .endless report => report
  | .wrap report _ => report

def cause? : Failure → Option Failure
  | .root _ => none
  | .endless report => some (.endless report)
  | .wrap _ cause => some cause

instance : Traceable Failure := ⟨report, cause?⟩

/-- Wraps a failure in further reports, the outermost first. -/
def wrapAll (reports : List Report) (failure : Failure) : Failure :=
  reports.foldr wrap failure

end Failure

end BulkWrite
