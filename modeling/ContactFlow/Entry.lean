import ContactFlow.Level

/-!
Entries of the journal: a level, the part of the program that an entry comes from and a message.
-/

namespace ContactFlow

structure Entry where
  level : Level
  source : String
  message : String
  deriving DecidableEq, Repr, Inhabited

abbrev Journal := List Entry

namespace Journal

/-- The entries from a level on. -/
def atLeast (j : Journal) (level : Level) : Journal := j.filter fun e => level.rank ≤ e.level.rank

end Journal

end ContactFlow
