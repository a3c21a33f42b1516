/-
  Text/Blank.lean --- white space, and the ways a text falls into lines.

  Three notions of a line end live here.  A text read from a file or a stream has
  its carriage returns unified to line feeds (`unifyNewlines`), a stream of
  requests is cut at those (`inputLines`), and an ignore file is cut at every line
  boundary of the character set (`splitLines`).
-/
import GoogIndex.Text.Point

set_option autoImplicit false

namespace GoogIndex.Text

/-! ## White space -/

/-- The white space of the character set: what trimming removes. -/
def isBlank (p : Point) : Bool :=
  let n := p.toNat
  (0x09 ≤ n && n ≤ 0x0D) || (0x1C ≤ n && n ≤ 0x20) || n == 0x85 || n == 0xA0 || n == 0x1680
    || (0x2000 ≤ n && n ≤ 0x200A) || n == 0x2028 || n == 0x2029 || n == 0x202F || n == 0x205F
    || n == 0x3000

/-- Drop what satisfies a condition at the end. -/
def dropAtEnd {α : Type} (p : α → Bool) (xs : List α) : List α := (xs.reverse.dropWhile p).reverse

/-- The characters without the blanks at either end. -/
def trim (s : String) : String :=
  let blank (c : Char) : Bool := isBlank c
  .ofList (dropAtEnd blank (s.toList.dropWhile blank))

/-! ## Lines -/

/-- The characters that end a line of an ignore file. -/
def isLineBoundary (c : Char) : Bool :=
  let n := c.toNat
  (0x0A ≤ n && n ≤ 0x0D) || (0x1C ≤ n && n ≤ 0x1E) || n == 0x85 || n == 0x2028 || n == 0x2029

/-- Cut at every line boundary.  A carriage return with its line feed is one
boundary, and a boundary at the very end opens no further line. -/
def splitLineChars : List Char → List (List Char)
  | [] => []
  | '\r' :: '\n' :: rest => [] :: splitLineChars rest
  | c :: rest =>
      if isLineBoundary c then [] :: splitLineChars rest
      else
        match splitLineChars rest with
        | [] => [[c]]
        | line :: lines => (c :: line) :: lines

/-- The lines of an ignore file. -/
def splitLines (s : String) : List String := (splitLineChars s.toList).map .ofList

/-- Carriage returns, with or without their line feed, become line feeds. -/
def unifyNewlines (cs : List Char) : List Char := go cs []
where
  /-- The unified front stands reversed in `done`. -/
  go : List Char → List Char → List Char
    | [], done => done.reverse
    | '\r' :: '\n' :: rest, done => go rest ('\n' :: done)
    | c :: rest, done => go rest ((if c = '\r' then '\n' else c) :: done)

/-- Cut at line feeds; the text after the last one is a line only if it is not empty. -/
def feedLines (cs : List Char) : List (List Char) := go cs [] []
where
  /-- `line` and `done` stand reversed. -/
  go : List Char → List Char → List (List Char) → List (List Char)
    | [], [], done => done.reverse
    | [], line, done => (line.reverse :: done).reverse
    | '\n' :: rest, line, done => go rest [] (line.reverse :: done)
    | c :: rest, line, done => go rest (c :: line) done

/-- The lines of a request stream. -/
def inputLines (s : String) : List String :=
  (feedLines (unifyNewlines s.toList)).map .ofList

end GoogIndex.Text
