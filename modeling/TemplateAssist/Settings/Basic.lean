/-!
# Settings

The thresholds and switches that the analyses share.
-/

set_option autoImplicit false

namespace TemplateAssist

/-- How many candidates a completion never exceeds. -/
def candidateCap : Nat := 20

/-- The settings of an analysis. -/
structure Settings where
  /-- How many characters after the cursor are searched for the closer of the open block. -/
  closingLookahead : Nat := 50
  /-- How many characters before the cursor are searched for an open expression when a dot was
  typed. -/
  dotLookback : Nat := 50
  /-- How many characters on each side of the cursor are searched for a word to explain. -/
  hoverWindow : Nat := 20
  /-- How many candidates a completion lists. -/
  maxCandidates : Nat := candidateCap
  /-- Whether names that are not known are reported. -/
  checkUndefinedVariables : Bool := true
  /-- Whether broken blocks are left out where they overlap a mixed delimiter. -/
  dedupeMixedDelimiters : Bool := false
  /-- Whether a `set` statement with an assignment needs no end tag. -/
  inlineSetCloses : Bool := true
  deriving DecidableEq, Repr

end TemplateAssist
