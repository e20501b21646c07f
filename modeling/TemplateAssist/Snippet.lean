import TemplateAssist.Snippet.Fields
import TemplateAssist.Snippet.Kind

/-!
# Snippets

`renderSnippet` writes the template code for a kind of snippet with its fields filled in.
-/

set_option autoImplicit false

namespace TemplateAssist

/-- The body of a block: the content that was given, or something else if there is none. -/
def SnippetFields.body (f : SnippetFields) (otherwise : Text) : Text :=
  match f.content with
  | some (c :: rest) => c :: rest
  | _ => otherwise

/-- An expression with a content. -/
def inExpression (content : Text) : Text := ['{', '{', ' '] ++ content ++ [' ', '}', '}']

/-- A statement with a content. -/
def inStatement (content : Text) : Text := ['{', '%', ' '] ++ content ++ [' ', '%', '}']

/-- A statement, a body and an end tag, on lines of their own. -/
def statementWithBody (statement body endTag : Text) : Text :=
  inStatement statement ++ ['\n', ' ', ' '] ++ body ++ ['\n'] ++ inStatement endTag

/-- The template code of a snippet.  The limit is written with all its digits: that an integer has
no text if it has too many of them (`LongInteger.writing`) is left out here. -/
def renderSnippet (kind : SnippetKind) (f : SnippetFields) (today : Date) : Text :=
  match kind with
  | .rollup =>
    inExpression ("rollups[\"".toList ++ f.symbol ++ "\"].".toList ++ f.field)
  | .forLoop =>
    statementWithBody ("for ".toList ++ f.item ++ " in ".toList ++ f.collection)
      (f.body (inExpression f.item)) "endfor".toList
  | .ifStatement =>
    statementWithBody ("if ".toList ++ f.condition) (f.body "true content".toList) "endif".toList
  | .variableReference => inExpression f.path
  | .filtered => inExpression (f.value ++ " | ".toList ++ f.filter)
  | .similarHeadlines =>
    inExpression ("similar_headlines(\n  lookback_days=".toList
      ++ (toString (f.lookbackDays today)).toList
      ++ ",\n  similarity_threshold=".toList ++ f.similarityThreshold.toText
      ++ ",\n  limit=".toList ++ Nat.toDigits 10 f.limit ++ "\n)".toList)

end TemplateAssist
