/-
  Proofs/Command/Single.lean --- a single command ends in one of two ways.

  Normative source: SPEC_FULL §4.5, `_run_single`; §7.

  It prints its result on one line and ends with code 0, or it prints nothing, reports what went
  wrong on its last line for diagnosis, and ends with code 1.  Whatever the command meets is
  reported so, and so is a mistake in the text of its arguments.  What is not taken care of is a
  text that goes beyond a limit of reading, or that is not there at all: that ends the run
  uncaught.
-/
import GoogIndex.Proofs.Command.Session
import GoogIndex.Proofs.Json.Halves

set_option autoImplicit false

namespace GoogIndex.Command

open GoogIndex.Scan GoogIndex.Storage

/-! ## Two ways to end -/

/-- The run printed this result, and nothing else, and ended well. -/
structure Prints (r : Transcript) (result : Json) : Prop where
  exit : r.exit = .code 0
  output : r.output = [result.write]
  printable : ∀ c ∈ result.write.toList, Json.IsPrintable c

/-- The run printed nothing and ended with a report of this kind and this message. -/
structure Reports (r : Transcript) (label : String) (message : Text) : Prop where
  exit : r.exit = .code 1
  output : r.output = []
  report : ∃ (trace : Text) (line : String), r.errors.getLast? = some line ∧
    (∀ c ∈ line.toList, Json.IsPrintable c) ∧
    Json.read depthLimit line = .ok (.obj [("error", .str label),
      ("message", .str (Json.joinText message)), ("traceback", .str trace)])

/-- The run ended in one of the two ways. -/
def Settles (r : Transcript) : Prop :=
  (∃ result, Prints r result) ∨ ∃ label message, Reports r label message

theorem isPrintable_write (v : Json) : ∀ c ∈ v.write.toList, Json.IsPrintable c := by
  rw [Json.write, String.toList_ofList]
  exact Json.isPrintable_writeChars v

theorem Prints.of_result (result : Json) (errors : List String) :
    Prints ⟨.code 0, [result.write], errors⟩ result :=
  ⟨rfl, rfl, isPrintable_write result⟩

/-- A report that comes last is one line, from which its members can be read. -/
theorem Reports.of_report (report : FailureReport) (errors : List String) :
    Reports ⟨.code 1, [], errors ++ [report.toJson.write]⟩ report.label report.message := by
  have hkeys :
      [Json.joinText "error", Json.joinText "message", Json.joinText "traceback"].Nodup := by
    decide
  have hplain : Json.Plain depthLimit report.toJson := ⟨hkeys, trivial, trivial, trivial, trivial⟩
  have hkinds : Json.joinText report.label = report.label :=
    Json.joinText_of_unsplit (Json.unsplit_ofString report.label)
  have hjoined : report.toJson.joined = .obj [("error", .str report.label),
      ("message", .str (Json.joinText report.message)),
      ("traceback", .str (Json.joinText report.trace))] := by
    rw [← hkinds]
    rfl
  refine ⟨rfl, rfl, Json.joinText report.trace, report.toJson.write, List.getLast?_concat,
    isPrintable_write report.toJson, ?_⟩
  rw [Json.read_write hplain, hjoined]

/-! ## Command lines -/

/-- The words ask for a single command.  Its arguments have this text, unless it was taken away
from them. -/
structure AsksFor (words : List String) (command project : String) (args : Option String) :
    Prop where
  options : ∃ verbose,
    Options.ofWords words = .ok ⟨false, verbose, some command, some project, args⟩
  choice : command ∈ commandChoices
  named : project ≠ ""

/-- No option has an equals sign in its spelling. -/
theorem ofSpelling?_eq_none {word : String} (h : '=' ∈ word.toList) :
    Switch.ofSpelling? word = none := by
  have hspellings : ∀ k ∈ spellings, '=' ∉ k.1.toList := by decide
  rw [Switch.ofSpelling?, Option.map_eq_none_iff, List.find?_eq_none]
  intro k hk heq
  rw [decide_eq_true_eq] at heq
  subst heq
  exact hspellings k hk h

/-- A long option with a text attached to it. -/
def attachedWord (spelling text : String) : String := spelling ++ "=" ++ text

theorem toList_attachedWord (spelling text : String) :
    (attachedWord spelling text).toList = spelling.toList ++ '=' :: text.toList := by
  simp [attachedWord]

theorem cutAtEquals_attached {spelling : String} (h : '=' ∉ spelling.toList) (text : String) :
    cutAtEquals (attachedWord spelling text).toList = (spelling, some text) := by
  have hfront : (spelling.toList ++ '=' :: text.toList).takeWhile (· != '=') = spelling.toList := by
    rw [List.takeWhile_append_of_pos, List.takeWhile_cons_of_neg (by simp), List.append_nil]
    intro c hc
    rw [bne_iff_ne]
    rintro rfl
    exact h hc
  simp only [cutAtEquals, toList_attachedWord, hfront, List.drop_left, String.ofList_toList]

/-- Any text may be attached to a long option. -/
theorem readWord_attached (spelling : String) (s : Switch)
    (hspelling : Switch.ofSpelling? spelling = some s) (hdash : spelling.toList.head? = some '-')
    (hlong : spelling.length ≠ 2) (text : String) :
    readWord (attachedWord spelling text) = .ok (.long s (some text)) := by
  have hplain : '=' ∉ spelling.toList := by
    intro hmem
    rw [ofSpelling?_eq_none hmem] at hspelling
    cases hspelling
  have hequals : '=' ∈ (attachedWord spelling text).toList := by
    rw [toList_attachedWord]
    exact List.mem_append_right _ List.mem_cons_self
  have hword : ¬ ((attachedWord spelling text).toList.head? ≠ some '-' ∨
      (attachedWord spelling text).toList = ['-']) := by
    rintro (hhead | hlone)
    · rw [toList_attachedWord, List.head?_append, hdash] at hhead
      exact hhead rfl
    · rw [hlone] at hequals
      exact absurd hequals (by decide)
  simp only [readWord]
  rw [if_neg hword, ofSpelling?_eq_none hequals, cutAtEquals_attached hplain]
  simp only [hspelling, exactReading, if_neg hlong]

/-- A command line with all texts attached to their options. -/
def attachedWords (command project rawArgs : String) : List String :=
  [attachedWord "--command" command, attachedWord "--project" project,
    attachedWord "--args" rawArgs]

/-- Every text but two dashes can be given to a command as its arguments. -/
theorem asksFor_attachedWords {command project rawArgs : String}
    (hcommand : command ∈ commandChoices) (hproject : project ≠ "") (hdashes : project ≠ "--")
    (hargs : rawArgs ≠ "--") :
    AsksFor (attachedWords command project rawArgs) command project (some rawArgs) := by
  refine ⟨⟨false, ?_⟩, hcommand, hproject⟩
  have hword : ∀ spelling text, attachedWord spelling text ≠ "--" := by
    intro spelling text heq
    have hmem : '=' ∈ (attachedWord spelling text).toList := by
      rw [toList_attachedWord]
      exact List.mem_append_right _ List.mem_cons_self
    rw [heq] at hmem
    exact absurd hmem (by decide)
  have hnodashes : command ≠ "--" := by
    rintro rfl
    exact absurd hcommand (by decide)
  have hreadings : readWords (attachedWords command project rawArgs) =
      .ok [(attachedWord "--command" command, .long .command (some command)),
        (attachedWord "--project" project, .long .project (some project)),
        (attachedWord "--args" rawArgs, .long .args (some rawArgs))] := by
    simp only [attachedWords, readWords, if_neg (hword _ _),
      readWord_attached "--command" .command rfl rfl (by decide),
      readWord_attached "--project" .project rfl rfl (by decide),
      readWord_attached "--args" .args rfl rfl (by decide)]
    rfl
  rw [Options.ofWords, hreadings]
  simp [applyWords, Options.attach, Options.store, Switch.takesValue, hnodashes, hdashes, hargs,
    hcommand, Options.start, bind, Except.bind, pure, Except.pure]

/-! ## How it ends -/

section ends

variable {t : Tree} {settings : Settings} {words : List String} {command project : String}
  {input : String}

/-- A text that is not empty is given. -/
theorem given_of_ne {text : String} (h : text ≠ "") :
    given (some (text : Text)) = some (text : Text) := by
  rw [given, if_neg]
  simpa using h

theorem AsksFor.given_project {args : Option String} (h : AsksFor words command project args) :
    given (some (project : Text)) = some (project : Text) := given_of_ne h.named

theorem AsksFor.given_command {args : Option String} (h : AsksFor words command project args) :
    given (some (command : Text)) = some (command : Text) := by
  apply given_of_ne
  rintro rfl
  exact absurd h.choice (by decide)

variable (t settings input) in
theorem run_of_asksFor {rawArgs : String} (h : AsksFor words command project (some rawArgs)) :
    ∃ verbose, run t settings words input =
      runCommand t settings verbose command project rawArgs := by
  obtain ⟨verbose, hoptions⟩ := h.options
  refine ⟨verbose, ?_⟩
  rw [run, hoptions]
  simp only [Bool.false_eq_true, if_false, Option.map_some, h.given_command, h.given_project]

/-- A command line without its arguments ends the run before anything is carried out. -/
theorem run_of_asksFor_none (h : AsksFor words command project none) :
    run t settings words input = (t, ⟨withoutArgs, [], []⟩) := by
  obtain ⟨verbose, hoptions⟩ := h.options
  rw [run, hoptions]
  simp only [Bool.false_eq_true, if_false, Option.map_some, h.given_command, h.given_project]

variable {rawArgs : String}

/-- A command with a result prints it. -/
theorem prints_of_ok (h : AsksFor words command project (some rawArgs)) {args result : Json}
    (hargs : receive rawArgs = .value args)
    (hdone : (dispatch t settings (.str command) (.str project) args).outcome = .ok result) :
    Prints (run t settings words input).2 result := by
  obtain ⟨verbose, hrun⟩ := run_of_asksFor t settings input h
  rw [hrun, runCommand, runSingle, hargs]
  simp only [hdone]
  exact Prints.of_result result _

/-- A command that fails reports its fault. -/
theorem reports_of_error (h : AsksFor words command project (some rawArgs)) {args : Json}
    {f : CommandFault} (hargs : receive rawArgs = .value args)
    (hfailed : (dispatch t settings (.str command) (.str project) args).outcome = .error f) :
    Reports (run t settings words input).2 f.label f.message := by
  obtain ⟨verbose, hrun⟩ := run_of_asksFor t settings input h
  rw [hrun, runCommand, runSingle, hargs]
  simp only [hfailed]
  exact Reports.of_report ⟨f.label, f.message⟩ _

/-- A mistake in the text of the arguments is reported. -/
theorem reports_of_malformed (h : AsksFor words command project (some rawArgs)) {message : String}
    (hargs : receive rawArgs = .malformed message) :
    Reports (run t settings words input).2 "InvalidArgs"
      ("Failed to parse --args JSON: " ++ message) := by
  obtain ⟨verbose, hrun⟩ := run_of_asksFor t settings input h
  rw [hrun, runCommand, runSingle, hargs]
  exact Reports.of_report ⟨"InvalidArgs", "Failed to parse --args JSON: " ++ message⟩ _

/-- Arguments beyond a limit end the run uncaught, and nothing is printed. -/
theorem run_of_beyond (h : AsksFor words command project (some rawArgs)) {f : Json.Fault}
    (hargs : beyond? rawArgs = some f) :
    run t settings words input = (t, ⟨.uncaught f.label, [], []⟩) := by
  obtain ⟨verbose, hrun⟩ := run_of_asksFor t settings input h
  have hreceive : receive rawArgs = .beyond f := by
    cases hreceive : receive rawArgs with
    | value v => simp [beyond?, hreceive] at hargs
    | malformed message => simp [beyond?, hreceive] at hargs
    | beyond g =>
        rw [beyond?, hreceive] at hargs
        cases hargs
        rfl
  rw [hrun, runCommand, runSingle, hreceive]
  simp [eventLines]

/-- Within the limits a run ends in one of the two ways. -/
theorem settles_of_within (h : AsksFor words command project (some rawArgs))
    (hwithin : beyond? rawArgs = none) :
    Settles (run t settings words input).2 := by
  cases hreceive : receive rawArgs with
  | beyond f =>
      rw [beyond?, hreceive] at hwithin
      cases hwithin
  | malformed message => exact .inr ⟨_, _, reports_of_malformed h hreceive⟩
  | value args =>
      cases hdone : (dispatch t settings (.str command) (.str project) args).outcome with
      | ok result => exact .inl ⟨result, prints_of_ok h hreceive hdone⟩
      | error f => exact .inr ⟨_, _, reports_of_error h hreceive hdone⟩

/-- A run that ends uncaught has ended in neither way. -/
theorem not_settles_of_uncaught {r : Transcript} {label : String} (h : r.exit = .uncaught label) :
    ¬ Settles r := by
  rintro (⟨result, hprints⟩ | ⟨kind, message, hreports⟩)
  · have hexit := h.symm.trans hprints.exit
    cases hexit
  · have hexit := h.symm.trans hreports.exit
    cases hexit

end ends

/-- A single command prints its result on one line and ends with code 0, or prints nothing and
ends with code 1 and a report on its last line for diagnosis: exactly if its arguments are there
and within the limits of reading, in particular if they are moderate.  A result is printed, any
fault of the command is reported with its kind and message, and so is a mistake in the text of the
arguments.  Everything else ends the run uncaught, with nothing printed and nothing reported. -/
theorem single_ends_iff (t : Tree) (settings : Settings) {words : List String}
    {command project : String} {args : Option String} (h : AsksFor words command project args)
    (input : String) :
    let r := (run t settings words input).2
    (Settles r ↔ ∃ rawArgs, args = some rawArgs ∧ beyond? rawArgs = none) ∧
    (∀ rawArgs, args = some rawArgs →
      (∀ value, receive rawArgs = .value value →
        (∀ result, (dispatch t settings (.str command) (.str project) value).outcome = .ok result →
          Prints r result) ∧
        ∀ f, (dispatch t settings (.str command) (.str project) value).outcome = .error f →
          Reports r f.label f.message) ∧
      (∀ message, receive rawArgs = .malformed message →
        Reports r "InvalidArgs" ("Failed to parse --args JSON: " ++ message)) ∧
      (∀ f, beyond? rawArgs = some f → r = ⟨.uncaught f.label, [], []⟩) ∧
      (Moderate depthLimit rawArgs → beyond? rawArgs = none)) ∧
    (args = none → r = ⟨.uncaught "TypeError", [], []⟩) := by
  intro r
  refine ⟨?_, ?_, ?_⟩
  · constructor
    · intro hends
      cases args with
      | none =>
          have hnone : r = ⟨withoutArgs, [], []⟩ := congrArg Prod.snd (run_of_asksFor_none h)
          exact absurd hends (not_settles_of_uncaught (congrArg Transcript.exit hnone))
      | some rawArgs =>
          refine ⟨rawArgs, rfl, ?_⟩
          cases hbeyond : beyond? rawArgs with
          | none => rfl
          | some f =>
              have hlost : r = ⟨.uncaught f.label, [], []⟩ :=
                congrArg Prod.snd (run_of_beyond h hbeyond)
              exact absurd hends (not_settles_of_uncaught (congrArg Transcript.exit hlost))
    · rintro ⟨rawArgs, rfl, hwithin⟩
      exact settles_of_within h hwithin
  · rintro rawArgs rfl
    refine ⟨fun value hvalue => ⟨fun result hdone => ?_, fun f hfailed => ?_⟩,
      fun message hmalformed => ?_, fun f hbeyond => ?_, beyond?_of_moderate⟩
    · exact prints_of_ok h hvalue hdone
    · exact reports_of_error h hvalue hfailed
    · exact reports_of_malformed h hmalformed
    · exact congrArg Prod.snd (run_of_beyond h hbeyond)
  · rintro rfl
    exact congrArg Prod.snd (run_of_asksFor_none h)

/-- A command whose arguments are a list without an end. -/
theorem single_ends_iff_sample :
    AsksFor (attachedWords "extract" "a.js" "[1") "extract" "a.js" (some "[1") ∧
    Moderate depthLimit "[1" ∧
    Settles (run default default (attachedWords "extract" "a.js" "[1") "").2 ∧
    Reports (run default default (attachedWords "extract" "a.js" "[1") "").2 "InvalidArgs"
      "Failed to parse --args JSON: Expecting ',' delimiter: line 1 column 3 (char 2)" := by
  have hasks : AsksFor (attachedWords "extract" "a.js" "[1") "extract" "a.js" (some "[1") :=
    asksFor_attachedWords (by decide) (by decide) (by decide) (by decide)
  have hmoderate : Moderate depthLimit "[1" := moderate_of_short (by decide) (by decide)
  obtain ⟨hends, hcases, -⟩ := single_ends_iff default default hasks ""
  obtain ⟨-, hmalformed, -, hwithin⟩ := hcases "[1" rfl
  exact ⟨hasks, hmoderate, hends.mpr ⟨"[1", rfl, hwithin hmoderate⟩, hmalformed _ rfl⟩

/-- Two texts for the arguments with which a run ends in neither way: a number of 4301 digits, and
two dashes, which are taken away. -/
theorem neither_after_ones_or_dashes :
    (AsksFor (attachedWords "scan" "p" (.ofList (ones 4301))) "scan" "p"
        (some (.ofList (ones 4301))) ∧
      (run default default (attachedWords "scan" "p" (.ofList (ones 4301))) "").2 =
        ⟨.uncaught "ValueError", [], []⟩ ∧
      ¬ Settles (run default default (attachedWords "scan" "p" (.ofList (ones 4301))) "").2) ∧
    AsksFor (attachedWords "scan" "p" "--") "scan" "p" none ∧
      (run default default (attachedWords "scan" "p" "--") "").2 =
        ⟨.uncaught "TypeError", [], []⟩ ∧
      ¬ Settles (run default default (attachedWords "scan" "p" "--") "").2 := by
  have hdigits : Json.digitLimit < 4301 := by decide
  have hones : AsksFor (attachedWords "scan" "p" (.ofList (ones 4301))) "scan" "p"
      (some (.ofList (ones 4301))) := by
    apply asksFor_attachedWords (by decide) (by decide) (by decide)
    intro heq
    have hlength := congrArg (fun text => text.toList.length) heq
    rw [String.toList_ofList, ones, List.length_replicate] at hlength
    exact absurd hlength (by decide)
  have hdashes : AsksFor (attachedWords "scan" "p" "--") "scan" "p" none :=
    ⟨⟨false, rfl⟩, by decide, by decide⟩
  have hlost : (run default default (attachedWords "scan" "p" (.ofList (ones 4301))) "").2 =
      ⟨.uncaught "ValueError", [], []⟩ := by
    rw [run_of_beyond hones (beyond?_ones hdigits)]
    rfl
  have hwithout : (run default default (attachedWords "scan" "p" "--") "").2 =
      ⟨.uncaught "TypeError", [], []⟩ := by
    rw [run_of_asksFor_none hdashes]
    rfl
  exact ⟨⟨hones, hlost, not_settles_of_uncaught (congrArg Transcript.exit hlost)⟩,
    hdashes, hwithout, not_settles_of_uncaught (congrArg Transcript.exit hwithout)⟩

end GoogIndex.Command
