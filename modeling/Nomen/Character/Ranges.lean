namespace Nomen

abbrev Ranges := List (Nat × Nat)

def Ranges.has (ranges : Ranges) (c : Char) : Bool :=
  ranges.any fun (first, last) => first ≤ c.toNat && c.toNat ≤ last

/-- Runs of code points: the first, the last, and the step from one to the next. -/
abbrev Runs := List (Nat × Nat × Nat)

def Runs.covers (run : Nat × Nat × Nat) (c : Char) : Bool :=
  run.1 ≤ c.toNat && c.toNat ≤ run.2.1 && (c.toNat - run.1) % run.2.2 == 0

def Runs.has (runs : Runs) (c : Char) : Bool :=
  runs.any (covers · c)

end Nomen
