import TemplateAssist.Block.Walk
import TemplateAssist.Lint.MixedDelimiters
import TemplateAssist.Lint.Pairing
import TemplateAssist.Lint.TagBalance
import TemplateAssist.Lint.UndefinedVariables

/-!
# Checking a whole document

`lint` puts the findings of all checks together: mixed delimiters, broken blocks, tags, quotes and
brackets, and unknown names, in this order, and in the order of the document within each.
-/

set_option autoImplicit false

namespace TemplateAssist

/-- The findings that overlap none of `others`. -/
def withoutOverlaps (others found : List Finding) : List Finding :=
  found.filter fun d ↦ !others.any fun other ↦ d.span.overlaps other.span

/-- All findings for a document. -/
def lint (settings : Settings) (tree : VariableTree) (t : Text) : List Finding :=
  let mixed := t.mixedDelimiters
  let broken := t.brokenBlocks
  let blocks := t.blocks
  mixed
    ++ (if settings.dedupeMixedDelimiters then withoutOverlaps mixed broken else broken)
    ++ tagBalance settings blocks
    ++ pairing blocks
    ++ (if settings.checkUndefinedVariables then undefinedVariables tree blocks else [])

end TemplateAssist
