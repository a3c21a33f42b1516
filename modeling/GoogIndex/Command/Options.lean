/-
  Command/Options.lean --- the options of the command line.

  Normative source: SPEC_FULL §4.5, `main`.

  Words are first read one by one: a word is a value, or an option with or without a
  text attached to it.  A long option may be shortened as long as it stays the only one
  that fits, and single letters may share one dash.  Then the options take effect in
  order.
-/
import GoogIndex.Text.DigitTable
import GoogIndex.Text.Quoted

set_option autoImplicit false

namespace GoogIndex.Command

open GoogIndex.Text

/-- An option. -/
inductive Switch where
  | help
  | sidecar
  | command
  | project
  | args
  | verbose
  deriving DecidableEq, Repr, Inhabited

/-- The spellings of all options, in the order in which they are declared. -/
def spellings : List (String × Switch) :=
  [("-h", .help), ("--help", .help), ("--sidecar", .sidecar), ("--command", .command),
    ("--project", .project), ("--args", .args), ("-v", .verbose), ("--verbose", .verbose)]

/-- The option with a spelling. -/
def Switch.ofSpelling? (s : String) : Option Switch :=
  (spellings.find? fun k => k.1 = s).map (·.2)

/-- Whether an option takes a value. -/
def Switch.takesValue : Switch → Bool
  | .command => true
  | .project => true
  | .args => true
  | .help => false
  | .sidecar => false
  | .verbose => false

/-- The name of an option in messages: all its spellings. -/
def Switch.name (s : Switch) : String :=
  String.intercalate "/" ((spellings.filter fun k => k.2 = s).map (·.1))

/-- The commands that can be chosen. -/
def commandChoices : List String := ["extract", "scan"]

/-- Why a command line is refused. -/
inductive UsageFault where
  /-- a shortened option fits several -/
  | ambiguous (word : String) (candidates : List String)
  /-- a text is attached to an option that takes none -/
  | unusedText (s : Switch) (text : String)
  /-- an option lacks its value -/
  | missingValue (s : Switch)
  /-- there is no such command -/
  | invalidChoice (text : String)
  /-- words that mean nothing -/
  | unrecognized (words : List String)
  /-- there is nothing to do -/
  | incomplete
  deriving DecidableEq, Repr, Inhabited

/-- The report of a fault. -/
def UsageFault.message : UsageFault → String
  | .ambiguous word candidates =>
      "ambiguous option: " ++ word ++ " could match " ++ String.intercalate ", " candidates
  | .unusedText s text => "argument " ++ s.name ++ ": ignored explicit argument " ++ quoted text
  | .missingValue s => "argument " ++ s.name ++ ": expected one argument"
  | .invalidChoice text =>
      "argument " ++ Switch.command.name ++ ": invalid choice: " ++ quoted text ++ " (choose from "
        ++ String.intercalate ", " (commandChoices.map fun (choice : String) => quoted choice)
        ++ ")"
  | .unrecognized words => "unrecognized arguments: " ++ String.intercalate " " words
  | .incomplete => "--command and --project are required (or use --sidecar)"

/-! ## Words -/

/-- What a word of the command line is. -/
inductive Reading where
  | value
  /-- two dashes: only values follow -/
  | divider
  /-- an option, with the text attached to it -/
  | long (s : Switch) (attached : Option String)
  /-- an option of one letter, with the text attached to it -/
  | short (s : Switch) (attached : Option String)
  /-- a word with a dash that no option fits -/
  | unknown
  deriving DecidableEq, Repr, Inhabited

/-- A text without a line end behind it. -/
def dropLineEnd (cs : List Char) : List Char :=
  if cs.getLast? = some '\n' then cs.dropLast else cs

/-- Whether a word is a negative number, perhaps with a line end behind it. -/
def isNegativeNumber (word : List Char) : Bool :=
  match dropLineEnd word with
  | '-' :: rest =>
      match rest.dropWhile isUnicodeDigit with
      | [] => !rest.isEmpty
      | '.' :: fraction => !fraction.isEmpty && fraction.all isUnicodeDigit
      | _ => false
  | _ => false

/-- The reading of an option by its exact spelling. -/
def exactReading (spelling : String) (s : Switch) (attached : Option String) : Reading :=
  if spelling.length = 2 then .short s attached else .long s attached

/-- Cut at the first equals sign. -/
def cutAtEquals (cs : List Char) : String × Option String :=
  let front := cs.takeWhile (· != '=')
  match cs.drop front.length with
  | _ :: rest => (.ofList front, some (.ofList rest))
  | [] => (.ofList front, none)

/-- The spellings that begin with a text. -/
def candidates (front : String) : List (String × Switch) :=
  spellings.filter fun k => front.toList.isPrefixOf k.1.toList

/-- What a word with a dash is that is no exact spelling. -/
def readShortened (word : String) (cs : List Char) : Except UsageFault Reading :=
  let plain : Reading := if isNegativeNumber cs ∨ cs.contains ' ' then .value else .unknown
  match cs with
  | '-' :: '-' :: _ =>
      let (front, attached) := cutAtEquals cs
      match candidates front with
      | [] => .ok plain
      | [(_, s)] => .ok (.long s attached)
      | several => .error (.ambiguous word (several.map (·.1)))
  | a :: b :: rest =>
      match Switch.ofSpelling? (.ofList [a, b]) with
      | some s => .ok (.short s (some (.ofList rest)))
      | none => .ok plain
  | _ => .ok plain

/-- What a word is. -/
def readWord (word : String) : Except UsageFault Reading :=
  let cs := word.toList
  if cs.head? ≠ some '-' ∨ cs = ['-'] then .ok .value
  else
    match Switch.ofSpelling? word with
    | some s => .ok (exactReading word s none)
    | none =>
        let (front, attached) := cutAtEquals cs
        match attached, Switch.ofSpelling? front with
        | some _, some s => .ok (exactReading front s attached)
        | _, _ => readShortened word cs

/-- What all words are. -/
def readWords : List String → Except UsageFault (List (String × Reading))
  | [] => .ok []
  | word :: rest =>
      if word = "--" then .ok ((word, .divider) :: rest.map fun w => (w, .value))
      else do
        let reading ← readWord word
        return (word, reading) :: (← readWords rest)

/-! ## Effects -/

/-- The options as given. -/
structure Options where
  sidecar : Bool
  verbose : Bool
  command : Option String
  project : Option String
  args : Option String
  deriving DecidableEq, Repr, Inhabited

/-- The options before any word. -/
def Options.start : Options := ⟨false, false, none, none, some "\x7b\x7d"⟩

/-- Why the reading of options stops. -/
inductive Stop where
  | help
  | fault (f : UsageFault)
  deriving DecidableEq, Repr, Inhabited

/-- The effect of an option without a value. -/
def Options.apply (o : Options) : Switch → Except Stop Options
  | .help => .error .help
  | .sidecar => .ok { o with sidecar := true }
  | .verbose => .ok { o with verbose := true }
  | _ => .ok o

/-- The effect of an option with its value. -/
def Options.store (o : Options) (s : Switch) (text : String) : Except Stop Options :=
  match s with
  | .command =>
      if commandChoices.contains text then .ok { o with command := some text }
      else .error (.fault (.invalidChoice text))
  | .project => .ok { o with project := some text }
  | .args => .ok { o with args := some text }
  | _ => .ok o

/-- The effect of an option whose value is taken away. -/
def Options.clear (o : Options) : Switch → Options
  | .command => { o with command := none }
  | .project => { o with project := none }
  | .args => { o with args := none }
  | _ => o

/-- The effect of an option with the text attached to it.  Two dashes stand for no value
there. -/
def Options.attach (o : Options) (s : Switch) (text : String) : Except Stop Options :=
  if !s.takesValue then .error (.fault (.unusedText s text))
  else if text = "--" then .ok (o.clear s)
  else o.store s text

/-- The options that the letters behind one dash stand for.  All of them have to be
options. -/
def letters (s : Switch) : List Char → Except UsageFault (List Switch)
  | [] => .error (.unusedText s "")
  | c :: rest =>
      match Switch.ofSpelling? (.ofList ['-', c]) with
      | none => .error (.unusedText s (.ofList (c :: rest)))
      | some next =>
          if rest.isEmpty then .ok [s, next]
          else do return s :: (← letters next rest)

/-- The options so far, and the words that mean nothing. -/
structure Reached where
  options : Options
  extras : List String
  deriving Repr, Inhabited

/-- Let the words take effect in order. -/
def applyWords : Reached → List (String × Reading) → Except Stop Reached
  | r, [] => .ok r
  | r, (word, .value) :: rest => applyWords { r with extras := r.extras ++ [word] } rest
  | r, (word, .divider) :: rest => applyWords { r with extras := r.extras ++ [word] } rest
  | r, (word, .unknown) :: rest => applyWords { r with extras := r.extras ++ [word] } rest
  | r, (_, .short s none) :: rest => do
      let o ← r.options.apply s
      applyWords { r with options := o } rest
  | r, (_, .short s (some text)) :: rest =>
      match letters s text.toList with
      | .error f => .error (.fault f)
      | .ok found => do
          let o ← found.foldlM Options.apply r.options
          applyWords { r with options := o } rest
  | r, (_, .long s (some text)) :: rest => do
      let o ← r.options.attach s text
      applyWords { r with options := o } rest
  | r, (_, .long s none) :: rest =>
      if s.takesValue then
        match rest with
        | (value, .value) :: rest => do
            let o ← r.options.store s value
            applyWords { r with options := o } rest
        | _ => .error (.fault (.missingValue s))
      else do
        let o ← r.options.apply s
        applyWords { r with options := o } rest

/-- Read a command line (SPEC_FULL §4.5). -/
def Options.ofWords (words : List String) : Except Stop Options :=
  match readWords words with
  | .error f => .error (.fault f)
  | .ok readings => do
      let r ← applyWords ⟨.start, []⟩ readings
      if r.extras.isEmpty then return r.options else .error (.fault (.unrecognized r.extras))

/-! ## Texts -/

/-- How the program is called. -/
def usageLines : List String :=
  ["usage: closuredeps [-h] [--sidecar] [--command \x7bextract,scan\x7d]",
    "                   [--project PROJECT] [--args ARGS] [-v]"]

/-- What the options do. -/
def helpLines : List String :=
  usageLines ++
    ["", "Extract goog.provide/goog.require metadata with an mtime cache", "", "options:",
      "  -h, --help            show this help message and exit",
      "  --sidecar             Serve one JSON request per stdin line until EOF",
      "  --command \x7bextract,scan\x7d",
      "                        Command to run",
      "  --project PROJECT     Project root (or file for extract)",
      "  --args ARGS           JSON-encoded arguments, e.g. '\x7b\"cache_file\":",
      "                        \"deps.json\"\x7d'",
      "  -v, --verbose         Log debug output to stderr"]

/-- The report of a refused command line. -/
def faultReport (f : UsageFault) : List String :=
  usageLines ++ ["closuredeps: error: " ++ f.message]

end GoogIndex.Command
