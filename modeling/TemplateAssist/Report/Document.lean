import TemplateAssist.Completion
import TemplateAssist.Diagnostic
import TemplateAssist.Json.Writer

/-!
# Results as JSON documents

The JSON documents that the command line prints for findings, contexts and completions.
-/

set_option autoImplicit false

namespace TemplateAssist

open Json (Document)

/-- A finding as a JSON object. -/
def Diagnostic.document (d : Finding) : Document :=
  .object
    [("start", .int d.span.start), ("end", .int d.span.stop),
      ("message", .text d.problem.message.toList), ("severity", .text d.severity.name.toList)]

/-- A context as a JSON object; what the context does not have is null. -/
def Context.document (c : Context) : Document :=
  .object
    [("kind", .text c.name.toList), ("prefix", .text c.typed),
      ("has_closing", .ofBool? c.closed?), ("object_path", .ofText? c.path?),
      ("replace_start", .ofNat? c.start?), ("replace_end", .ofNat? c.stop?)]

/-- A candidate as a JSON object. -/
def Candidate.document (c : Candidate) : Document :=
  .object
    [("label", .text c.label), ("kind", .text c.kind.name.toList),
      ("apply_text", .text c.insertion), ("detail", .text c.detail.toList),
      ("is_snippet", .bool c.isSnippet), ("cursor_offset", .ofNat? c.caret)]

/-- A completion as a JSON object. -/
def Completion.document (c : Completion) : Document :=
  .object
    [("replace_from", .int c.span.start), ("replace_to", .int c.span.stop),
      ("candidates", .list (c.candidates.map Candidate.document))]

end TemplateAssist
