namespace RecordListing.Text

/-!
# Sets of characters as runs

A set of characters is the list of its runs of consecutive code points.
-/

def memRuns (runs : List (Nat × Nat)) (c : Char) : Bool :=
  runs.any fun r => r.1 ≤ c.toNat && c.toNat ≤ r.2

end RecordListing.Text
