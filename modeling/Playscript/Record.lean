import Playscript.LineKind

/-!
One line of a script.
-/

namespace Playscript

/-- A line as its row gives it. `jump` is where the story goes on; only a line that ends the story
has none. -/
structure Record where
  address : Address
  tag : String
  speaker : String
  body : String
  jump : Option Address
  variant : String
  deriving DecidableEq, Repr, Inhabited

end Playscript
