/-
What a run cannot go on from. A rate too low is refused before anything else is done; the two overflows end a run in its
middle.
-/

namespace CallFeed

inductive Fault where
  /-- a rate below the least one -/
  | rateTooLow (rate least : Nat)
  /-- the events of a heartbeat period do not fit a 64-bit count -/
  | periodOverflow
  /-- there is no number left for the next event -/
  | callIdOverflow
deriving DecidableEq, Repr

def Fault.message : Fault → String
  | .rateTooLow rate least => s!"rate {rate} is below {least}"
  | .periodOverflow => "attempt to multiply with overflow"
  | .callIdOverflow => "attempt to add with overflow"

end CallFeed
