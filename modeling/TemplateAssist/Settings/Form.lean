import TemplateAssist.Form.Reading
import TemplateAssist.Settings.Basic

/-!
# Reading settings from a form

Each setting may be left out.  Fields that are no settings are passed over.  The number of
candidates is cut to `candidateCap`, whatever is asked for.
-/

set_option autoImplicit false

namespace TemplateAssist

/-- The settings that a form gives. -/
def Settings.ofFields (fields : Fields) : Checked Settings :=
  let defaults : Settings := {}
  let count (name : String) (default least : Nat) : Checked Nat :=
    fields.read name default (Reading.natFrom least)
  let switch (name : String) (default : Bool) : Checked Bool :=
    fields.read name default Reading.bool
  (Checked.of Settings.mk)
    |>.apply (count "closing_lookahead" defaults.closingLookahead 0)
    |>.apply (count "dot_lookback" defaults.dotLookback 1)
    |>.apply (count "hover_window" defaults.hoverWindow 1)
    |>.apply ((count "max_candidates" defaults.maxCandidates 1).map (min · candidateCap))
    |>.apply (switch "check_undefined_variables" defaults.checkUndefinedVariables)
    |>.apply (switch "dedupe_mixed_delimiters" defaults.dedupeMixedDelimiters)
    |>.apply (switch "inline_set_closes" defaults.inlineSetCloses)

end TemplateAssist
