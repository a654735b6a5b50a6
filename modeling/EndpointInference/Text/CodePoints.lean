/-!
Sets and maps of characters, given by runs of code points. A property of the character standard is
a list of runs; a character has the property when some run holds its code point.
-/

namespace EndpointInference.Text

/-- The code points from `first` to `last`, both included, `step` apart. -/
structure Run where
  first : Nat
  last : Nat
  step : Nat

def Run.holds (run : Run) (point : Nat) : Bool :=
  run.first ≤ point && point ≤ run.last && (point - run.first) % run.step == 0

def inRanges (table : List (Nat × Nat)) (c : Char) : Bool :=
  table.any fun range => range.1 ≤ c.toNat && c.toNat ≤ range.2

def inRuns (table : List Run) (c : Char) : Bool :=
  table.any fun run => run.holds c.toNat

end EndpointInference.Text
