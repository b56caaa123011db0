/-
Single values, as files and environments give them for settings.
-/
import CallFeed.Number.Binary64

namespace CallFeed

open CallFeed.Number

inductive Scalar where
  | integer (n : Int)
  | float (x : Binary64)
  | boolean (b : Bool)
  | text (t : Text)
deriving DecidableEq, Repr

end CallFeed
