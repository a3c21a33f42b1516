/-
  Script/SyntaxTree.lean --- what is kept of a parsed script.

  Normative source: SPEC_FULL §4.1 step 5, `parse_syntax_tree`.

  Only the outer shell of the tree is kept: the comments and the tokens of the whole
  script, without its body.
-/
import GoogIndex.Json.Value
import GoogIndex.Script.Token
import GoogIndex.Script.Trivia

set_option autoImplicit false

namespace GoogIndex.Script

/-- The shell of a syntax tree. -/
structure SyntaxTree where
  comments : List Comment
  tokens : List Token
  deriving DecidableEq, Repr, Inhabited

/-- The label of a comment: only the starred form is a block. -/
def CommentForm.label : CommentForm → String
  | .block => "Block"
  | _ => "Line"

/-- A syntax tree in reports. -/
def SyntaxTree.toJson (t : SyntaxTree) : Json :=
  .obj [("type", .str "Program"), ("sourceType", .str "script"), ("body", .null),
    ("comments", .arr (t.comments.map fun c => .arr [.str c.form.label, .str c.text])),
    ("tokens", .arr (t.tokens.map fun k => .arr [.str k.kind.label, .str k.text]))]

end GoogIndex.Script
