/-!
# Outcomes

An outcome counts the units a run has executed and those of them that failed.
-/

namespace SqlBuild

structure Outcome where
  executed : Nat := 0
  failed : Nat := 0
deriving DecidableEq, Repr

namespace Outcome

/-- One unit. -/
def unit (ok : Bool) : Outcome := ⟨1, if ok then 0 else 1⟩

def success : Outcome := unit true

def failure : Outcome := unit false

def isSuccess (o : Outcome) : Bool := o.failed == 0

instance : Add Outcome := ⟨fun a b => ⟨a.executed + b.executed, a.failed + b.failed⟩⟩

end Outcome

end SqlBuild
