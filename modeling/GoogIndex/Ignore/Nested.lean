/-
  Ignore/Nested.lean --- lines of an ignore file in a folder below the root.

  Normative source: SPEC_FULL §4.4, `_translate_gitignore_pattern`.

  All patterns of a project are matched from its root.  A line that stands in a
  folder is put in terms of the root: what was rooted in the folder gets the folder
  in front, and a single name applies at every depth below it.
-/
import GoogIndex.Text.Blank

set_option autoImplicit false

namespace GoogIndex.Ignore

open GoogIndex.Text

/-- Whether a line says nothing: it is empty or a comment. -/
def isRemark (line : List Point) : Bool :=
  line.isEmpty || (line.dropWhile isBlank).head? = some (.char '#')

/-- The body of a line, in terms of the root. -/
def rerootBody (folder body : List Point) : List Point :=
  match body with
  | .char '/' :: rest => folder ++ .char '/' :: rest
  | _ =>
      if (dropAtEnd (· == .char '/') body).contains '/' then folder ++ .char '/' :: body
      else folder ++ .char '/' :: .char '*' :: .char '*' :: .char '/' :: body

/-- A line in terms of the root, for an ignore file in `folder`, which is empty at the root
itself (SPEC_FULL §4.4, `_translate_gitignore_pattern`). -/
def rerootLine (line folder : Text) : Text :=
  let cs := dropAtEnd (· == .char '\n') line.toList
  if isRemark cs || folder = "" then .ofList cs
  else
    let base := dropAtEnd (· == .char '/') (folder.toList.dropWhile (· == .char '/'))
    match cs with
    | .char '!' :: body => .ofList ('!' :: rerootBody base body)
    | body => .ofList (rerootBody base body)

end GoogIndex.Ignore
