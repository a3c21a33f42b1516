/-
  Proofs/Command/Session.lean --- a session answers its requests in order.

  Normative source: SPEC_FULL §4.5, `_run_sidecar`; §7.

  Every line of a session that is not blank is a request.  Up to the first one that is lost
  each gets exactly one reply, carried out on the storage that the requests before it left;
  that one ends the session, and nothing after it is answered.  A request is lost if it goes
  beyond a limit of reading, or if its name makes the reply go beyond the limit of writing:
  what a command has to say never does.  A reply is one line whatever is in it.
-/
import Mathlib.Data.List.TakeWhile
import GoogIndex.Command.Program
import GoogIndex.Proofs.Json.Depth

set_option autoImplicit false

namespace GoogIndex.Command

open GoogIndex.Scan GoogIndex.Storage

/-! ## Replies -/

/-- The requests among some lines: what is not blank, without the blanks around it. -/
def requestsOf (lines : List String) : List String :=
  (lines.map Text.trim).filter fun text => text ≠ ""

/-- The requests of an input. -/
def requestTexts (input : String) : List String := requestsOf (Text.inputLines input)

/-- The limit that a request goes beyond. -/
def beyond? (text : String) : Option Json.Fault :=
  match receive text with
  | .beyond f => some f
  | _ => none

/-- The name that a request has for its reply. -/
def idOf (members : List (Text × Json)) : Json := (Json.member? members "id").getD .null

/-- What loses a request: it cannot be read, or its name nests too deep for a reply. -/
def lost? (text : String) : Option SessionFault :=
  match receive text with
  | .beyond f => some (.unread f)
  | .value (.obj members) =>
      if replyLimit ≤ (idOf members).depth then some .unwritable else none
  | _ => none

/-- What the command of a request does. -/
def carriedOut (t : Tree) (settings : Settings) (members : List (Text × Json)) :
    Ran (Except CommandFault Json) :=
  dispatch t settings ((Json.member? members "command").getD (.str ""))
    ((Json.member? members "project").getD (.str "")) ((Json.member? members "args").getD (.obj []))

/-- The reply to a request and the storage behind it. -/
inductive Replied (settings : Settings) : Tree → String → Json → Tree → Prop where
  /-- the command has a result -/
  | result {t : Tree} {text : String} {members : List (Text × Json)} {result : Json}
      (object : receive text = .value (.obj members))
      (done : (carriedOut t settings members).outcome = .ok result) :
      Replied settings t text (resultReply (idOf members) result)
        (carriedOut t settings members).tree
  /-- the command fails -/
  | fault {t : Tree} {text : String} {members : List (Text × Json)} {f : CommandFault}
      (object : receive text = .value (.obj members))
      (failed : (carriedOut t settings members).outcome = .error f) :
      Replied settings t text (errorReply (idOf members) f.label f.message)
        (carriedOut t settings members).tree
  /-- the request is another value -/
  | noObject {t : Tree} {text : String} {v : Json} (value : receive text = .value v)
      (other : ∀ members, v ≠ .obj members) :
      Replied settings t text
        (errorReply .null "InvalidRequest"
          ("Expected a JSON object, got " ++ v.typeName : String)) t
  /-- the request is no value -/
  | malformed {t : Tree} {text message : String} (mistake : receive text = .malformed message) :
      Replied settings t text (errorReply .null "InvalidJSON" message) t

/-- Requests with their replies, one after the other. -/
inductive Served (settings : Settings) : Tree → List String → List Json → Tree → Prop where
  | nil {t : Tree} : Served settings t [] [] t
  | cons {t t' t'' : Tree} {text : String} {texts : List String} {reply : Json}
      {replies : List Json} (first : Replied settings t text reply t')
      (rest : Served settings t' texts replies t'') :
      Served settings t (text :: texts) (reply :: replies) t''

theorem Served.length_eq {settings : Settings} {t t' : Tree} {texts : List String}
    {replies : List Json} (h : Served settings t texts replies t') :
    replies.length = texts.length := by
  induction h with
  | nil => rfl
  | cons _ _ ih => rw [List.length_cons, List.length_cons, ih]

/-! ## Nesting of replies -/

theorem depth_texts_le (texts : List Text) : (Json.texts texts).depth ≤ 1 := by
  rw [Json.texts, Json.depth]
  refine Nat.succ_le_succ (Json.itemsDepth_le_iff.mpr fun v hv => ?_)
  obtain ⟨_, -, rfl⟩ := List.mem_map.mp hv
  exact Nat.le_refl 0

theorem depth_record_le (r : Record) : r.toJson.depth ≤ 2 := by
  have hprovides := depth_texts_le r.provides
  have hrequires := depth_texts_le r.requires
  simp only [Record.toJson, Json.depth, Json.membersDepth]
  omega

theorem depth_report_le (r : Report) : r.toJson.depth ≤ 4 := by
  have hmissing := depth_texts_le r.result.missing
  have hfailed := depth_texts_le r.result.failed
  have hrecords : Json.itemsDepth (r.result.records.map fun e => e.record.toJson) ≤ 2 := by
    refine Json.itemsDepth_le_iff.mpr fun v hv => ?_
    obtain ⟨e, -, rfl⟩ := List.mem_map.mp hv
    exact depth_record_le e.record
  have herror : (Json.textOrNull (r.saveError.map fun refusal => refusal.message)).depth = 0 := by
    cases r.saveError <;> rfl
  simp only [Report.toJson, Json.depth, Json.membersDepth, herror]
  omega

/-- The result of a command nests a few containers at most. -/
theorem depth_dispatch_le {t : Tree} {settings : Settings} {command project args result : Json}
    (h : (dispatch t settings command project args).outcome = .ok result) : result.depth ≤ 4 := by
  unfold dispatch at h
  split at h
  · unfold runExtract at h
    dsimp only at h
    split at h
    · cases h
    · rename_i path _
      dsimp only at h
      cases he : (extractFile t path false).outcome with
      | error f =>
          rw [he] at h
          cases h
      | ok e =>
          rw [he] at h
          cases h
          exact Nat.le_trans (depth_record_le e.record) (by decide)
  · split at h
    · unfold runScan at h
      split at h
      · cases h
      rename_i request _
      dsimp only at h
      cases hr : (scanProject t settings request).outcome with
      | error f =>
          rw [hr] at h
          cases h
      | ok report =>
          rw [hr] at h
          cases h
          exact depth_report_le report
    · cases h
      exact (by decide : 1 ≤ 4)

/-- A reply can be written exactly if the name in it leaves room for the reply itself. -/
theorem replyLimit_lt_depth_resultReply {id result : Json} (h : result.depth ≤ 4) :
    replyLimit < (resultReply id result).depth ↔ replyLimit ≤ id.depth := by
  have hlimit : replyLimit = 989 := rfl
  simp only [resultReply, Json.depth, Json.membersDepth]
  omega

theorem replyLimit_lt_depth_errorReply {id : Json} {label : String} {message : Text} :
    replyLimit < (errorReply id label message).depth ↔ replyLimit ≤ id.depth := by
  have hlimit : replyLimit = 989 := rfl
  simp only [errorReply, Json.depth, Json.membersDepth]
  omega

/-! ## Steps -/

theorem answerRequest_of_ok {t : Tree} {settings : Settings} {members : List (Text × Json)}
    {result : Json} (h : (carriedOut t settings members).outcome = .ok result) :
    answerRequest t settings members =
      ⟨(carriedOut t settings members).tree, resultReply (idOf members) result,
        (carriedOut t settings members).events⟩ := by
  unfold carriedOut at h ⊢
  simp only [answerRequest, h, idOf]

theorem answerRequest_of_error {t : Tree} {settings : Settings} {members : List (Text × Json)}
    {f : CommandFault} (h : (carriedOut t settings members).outcome = .error f) :
    answerRequest t settings members =
      ⟨(carriedOut t settings members).tree, errorReply (idOf members) f.label f.message,
        (carriedOut t settings members).events⟩ := by
  unfold carriedOut at h ⊢
  simp only [answerRequest, h, idOf]

/-- A request that is not lost is answered, and the reply can be written. -/
theorem replied_of_answerText (t : Tree) (settings : Settings) {text : String}
    (h : lost? text = none) :
    ∃ reply, (answerText t settings text).outcome = .ok reply ∧ ¬ replyLimit < reply.depth ∧
      Replied settings t text reply (answerText t settings text).tree := by
  unfold lost? at h
  cases hreceive : receive text with
  | beyond f =>
      rw [hreceive] at h
      cases h
  | malformed message =>
      rw [answerText, hreceive]
      exact ⟨_, rfl, mt replyLimit_lt_depth_errorReply.mp (by decide), .malformed hreceive⟩
  | value v =>
      cases v with
      | obj members =>
          simp only [hreceive, ite_eq_right_iff, reduceCtorEq, imp_false] at h
          rw [answerText, hreceive]
          cases hdone : (carriedOut t settings members).outcome with
          | ok result =>
              dsimp only
              rw [answerRequest_of_ok hdone]
              exact ⟨_, rfl, mt (replyLimit_lt_depth_resultReply (depth_dispatch_le hdone)).mp h,
                .result hreceive hdone⟩
          | error f =>
              dsimp only
              rw [answerRequest_of_error hdone]
              exact ⟨_, rfl, mt replyLimit_lt_depth_errorReply.mp h, .fault hreceive hdone⟩
      | _ =>
          rw [answerText, hreceive]
          exact ⟨_, rfl, mt replyLimit_lt_depth_errorReply.mp (by decide),
            .noObject hreceive (by rintro _ ⟨⟩)⟩

/-- A lost request has no reply, or none that can be written. -/
theorem answerText_of_lost (t : Tree) (settings : Settings) {text : String} {f : SessionFault}
    (h : lost? text = some f) :
    (∃ g, f = .unread g ∧ answerText t settings text = ⟨t, .error g, []⟩) ∨
      f = .unwritable ∧
        ∃ reply, (answerText t settings text).outcome = .ok reply ∧ replyLimit < reply.depth := by
  unfold lost? at h
  split at h
  · rename_i g hreceive
    cases h
    exact .inl ⟨g, rfl, by rw [answerText, hreceive]⟩
  · rename_i members hreceive
    split at h <;> cases h
    rename_i hdeep
    refine .inr ⟨rfl, ?_⟩
    rw [answerText, hreceive]
    dsimp only
    cases hdone : (carriedOut t settings members).outcome with
    | ok result =>
        rw [answerRequest_of_ok hdone]
        exact ⟨_, rfl, (replyLimit_lt_depth_resultReply (depth_dispatch_le hdone)).mpr hdeep⟩
    | error g =>
        rw [answerRequest_of_error hdone]
        exact ⟨_, rfl, replyLimit_lt_depth_errorReply.mpr hdeep⟩
  · cases h

/-! ## Sessions -/

/-- A session that has ended takes no more lines. -/
theorem take_of_fault {settings : Settings} {s : Session} (h : s.fault.isSome = true)
    (lines : List String) : lines.foldl (Session.take settings) s = s := by
  induction lines with
  | nil => rfl
  | cons line lines ih =>
      have hline : Session.take settings s line = s := by simp [Session.take, h]
      rw [List.foldl_cons, hline, ih]

section take

variable {s : Session} {line : String}

/-- A request that is not lost adds its reply. -/
theorem take_of_not_lost (settings : Settings) (hs : s.fault = none) (hblank : Text.trim line ≠ "")
    (h : lost? (Text.trim line) = none) :
    ∃ reply t', Replied settings s.tree (Text.trim line) reply t' ∧
      (Session.take settings s line).tree = t' ∧
      (Session.take settings s line).replies = s.replies ++ [reply] ∧
      (Session.take settings s line).fault = none := by
  obtain ⟨reply, houtcome, hwritable, hreplied⟩ := replied_of_answerText s.tree settings h
  refine ⟨reply, _, hreplied, ?_⟩
  simp [Session.take, Session.reply, hs, hblank, houtcome, hwritable]

/-- A request that is lost ends the session without a reply. -/
theorem take_of_lost (settings : Settings) (hs : s.fault = none) (hblank : Text.trim line ≠ "")
    {f : SessionFault}
    (h : lost? (Text.trim line) = some f) :
    (Session.take settings s line).tree = (answerText s.tree settings (Text.trim line)).tree ∧
      (Session.take settings s line).replies = s.replies ∧
      (Session.take settings s line).fault = some f := by
  rcases answerText_of_lost s.tree settings h with ⟨g, rfl, hanswer⟩ | ⟨rfl, reply, houtcome, hdeep⟩
  · simp [Session.take, hs, hblank, hanswer]
  · simp [Session.take, Session.reply, hs, hblank, houtcome, hdeep]

end take

/-- What is left of storage after these requests: the first one that is lost may have been carried
out all the same. -/
def storageLeft (settings : Settings) (t : Tree) (texts : List String) : Tree :=
  match texts.find? fun text => (lost? text).isSome with
  | none => t
  | some text => (answerText t settings text).tree

/-- Up to the first request that is lost all are served. -/
theorem served_of_take (settings : Settings) (lines : List String) {s : Session}
    (h : s.fault = none) :
    ∃ replies t',
      Served settings s.tree ((requestsOf lines).takeWhile fun text => (lost? text).isNone)
        replies t' ∧
      (lines.foldl (Session.take settings) s).tree = storageLeft settings t' (requestsOf lines) ∧
      (lines.foldl (Session.take settings) s).replies = s.replies ++ replies ∧
      (lines.foldl (Session.take settings) s).fault = (requestsOf lines).findSome? lost? := by
  induction lines generalizing s with
  | nil => exact ⟨[], s.tree, .nil, rfl, (List.append_nil _).symm, h⟩
  | cons line lines ih =>
      rw [List.foldl_cons]
      by_cases hblank : Text.trim line = ""
      · have hline : Session.take settings s line = s := by simp [Session.take, hblank]
        have hrequests : requestsOf (line :: lines) = requestsOf lines := by
          simp [requestsOf, hblank]
        rw [hline, hrequests]
        exact ih h
      · have hrequests : requestsOf (line :: lines) = Text.trim line :: requestsOf lines := by
          simp [requestsOf, hblank]
        rw [hrequests]
        cases hlost : lost? (Text.trim line) with
        | some f =>
            obtain ⟨htree, hreplies, hfault⟩ := take_of_lost settings h hblank hlost
            rw [take_of_fault (by rw [hfault]; rfl),
              List.takeWhile_cons_of_neg (by simp [hlost]),
              List.findSome?_cons_of_isSome (by simp [hlost]), hlost]
            refine ⟨[], s.tree, .nil, ?_, by rw [hreplies, List.append_nil], hfault⟩
            rw [htree, storageLeft, List.find?_cons_of_pos (by simp [hlost])]
        | none =>
            obtain ⟨reply, t', hreplied, htree, hreplies, hfault⟩ :=
              take_of_not_lost settings h hblank hlost
            obtain ⟨more, last, hserved, hleft, hall, hend⟩ := ih hfault
            rw [List.takeWhile_cons_of_pos (by simp [hlost]), List.findSome?_cons, hlost]
            refine ⟨reply :: more, last, ?_, ?_, ?_, hend⟩
            · rw [htree] at hserved
              exact .cons hreplied hserved
            · rw [hleft, storageLeft, storageLeft, List.find?_cons_of_neg (by simp [hlost])]
            · rw [hall, hreplies, List.append_assoc, List.singleton_append]

/-! ## Limits -/

/-- A text with no more brackets than containers may be open, and no more digits in a row than an
integer may have. -/
structure Moderate (limit : Nat) (text : String) : Prop where
  brackets : text.toList.countP Json.isBracket ≤ limit
  digits : ∀ ds, ds <:+: text.toList → (∀ c ∈ ds, c.isDigit = true) → ds.length ≤ Json.digitLimit

/-- A moderate text is within the limits of reading. -/
theorem beyond?_of_moderate {text : String} (h : Moderate depthLimit text) :
    beyond? text = none := by
  cases hread : Json.read depthLimit text with
  | ok v => simp [beyond?, receive, hread]
  | error f =>
      cases f with
      | malformed problem line column offset => simp [beyond?, receive, hread]
      | tooDeep k =>
          have hmany := Json.lt_countP_of_tooDeep hread
          exact absurd h.brackets (Nat.not_le_of_lt hmany)
      | tooManyDigits n =>
          obtain ⟨hlimit, ds, hin, hdigit, rfl⟩ := Json.exists_digits_of_tooManyDigits hread
          exact absurd (h.digits ds hin hdigit) (Nat.not_le_of_lt hlimit)

theorem receive_eq_value_iff {text : String} {v : Json} :
    receive text = .value v ↔ Json.readChars depthLimit text.toList = .ok v := by
  unfold receive Json.read
  cases Json.readChars depthLimit text.toList with
  | ok v' => simp
  | error f => cases f <;> simp

/-- A request is lost if it is beyond a limit of reading, or if it is read and its name has no
room in a reply. -/
theorem lost?_eq_none_iff {text : String} :
    lost? text = none ↔ beyond? text = none ∧
      ∀ members, receive text = .value (.obj members) → (idOf members).depth < replyLimit := by
  unfold lost? beyond?
  cases receive text with
  | beyond f => simp
  | malformed message => simp
  | value v => cases v <;> simp

theorem lost?_of_beyond {text : String} {f : Json.Fault} (h : beyond? text = some f) :
    lost? text = some (.unread f) := by
  unfold beyond? at h
  split at h
  · rename_i g hreceive
    cases h
    rw [lost?, hreceive]
  · cases h

/-- A request that is moderate for a reply is not lost. -/
theorem lost?_of_moderate {text : String} (h : Moderate replyLimit text) : lost? text = none := by
  refine lost?_eq_none_iff.mpr ⟨beyond?_of_moderate ⟨Nat.le_trans h.brackets (by decide),
    h.digits⟩, fun members hobject => ?_⟩
  have hdepth := Json.depth_le_countP (receive_eq_value_iff.mp hobject)
  have hroom := Nat.le_trans hdepth h.brackets
  cases hid : Json.member? members "id" with
  | none =>
      rw [idOf, hid]
      decide
  | some id =>
      rw [idOf, hid]
      exact Nat.lt_of_lt_of_le (Json.depth_lt_of_member? hid) hroom

/-- How a session with these requests ends. -/
def exitOf (texts : List String) : Exit :=
  match texts.findSome? lost? with
  | some f => .uncaught f.label
  | none => .code 0

/-- What a run that serves a session prints, leaves and ends with. -/
theorem served_of_run (t : Tree) (settings : Settings) {words : List String} {o : Options}
    (hwords : Options.ofWords words = .ok o) (hsidecar : o.sidecar = true) (input : String) :
    ∃ replies t',
      Served settings t ((requestTexts input).takeWhile fun text => (lost? text).isNone)
        replies t' ∧
      (run t settings words input).1 = storageLeft settings t' (requestTexts input) ∧
      (run t settings words input).2.output = (readyReply :: replies).map Json.write ∧
      (run t settings words input).2.exit = exitOf (requestTexts input) := by
  have hrun : run t settings words input = runSession t settings o.verbose input := by
    rw [run, hwords]
    exact if_pos hsidecar
  obtain ⟨replies, t', hserved, hleft, hreplies, hfault⟩ :=
    served_of_take settings (Text.inputLines input) (s := Session.start t) rfl
  rw [hrun]
  refine ⟨replies, t', hserved, hleft, ?_, ?_⟩
  · show (serve t settings input).replies.map Json.write = _
    rw [serve, hreplies]
    rfl
  · have hlast : (serve t settings input).fault = (requestTexts input).findSome? lost? := hfault
    rw [exitOf, ← hlast]
    rfl

/-- Requests that are not lost are all served, and leave no more than that. -/
theorem served_all {texts : List String} (h : ∀ text ∈ texts, lost? text = none) :
    (texts.takeWhile fun text => (lost? text).isNone) = texts ∧
      (∀ settings t, storageLeft settings t texts = t) ∧ exitOf texts = .code 0 := by
  refine ⟨?_, fun settings t => ?_, ?_⟩
  · rw [List.takeWhile_eq_self_iff]
    intro text htext
    rw [h text htext]
    rfl
  · have hnone : texts.find? (fun text => (lost? text).isSome) = none := by
      rw [List.find?_eq_none]
      intro text htext
      simp [h text htext]
    rw [storageLeft, hnone]
  · rw [exitOf, List.findSome?_eq_none_iff.mpr h]

/-- A session prints that it is ready and then, in the order of the requests, exactly one line
for each one before the first that is lost: one that goes beyond a limit of reading, or one with
a name that has no room in a reply.  If there is such a request it ends the session uncaught,
though it may have been carried out; otherwise the session lasts to the end of the input and ends
with code 0, in particular if every request is moderate for a reply. -/
theorem served_until_lost (t : Tree) (settings : Settings) {words : List String} {o : Options}
    (hwords : Options.ofWords words = .ok o) (hsidecar : o.sidecar = true) (input : String) :
    ∃ replies t',
      Served settings t ((requestTexts input).takeWhile fun text => (lost? text).isNone)
        replies t' ∧
      (run t settings words input).1 = storageLeft settings t' (requestTexts input) ∧
      (run t settings words input).2.output = (readyReply :: replies).map Json.write ∧
      (∀ line ∈ (run t settings words input).2.output, ∀ c ∈ line.toList, Json.IsPrintable c) ∧
      (run t settings words input).2.exit = exitOf (requestTexts input) ∧
      ((∀ text ∈ requestTexts input, Moderate replyLimit text) →
        replies.length = (requestTexts input).length ∧
          (run t settings words input).1 = t' ∧
          (run t settings words input).2.exit = .code 0) := by
  obtain ⟨replies, t', hserved, htree, houtput, hexit⟩ :=
    served_of_run t settings hwords hsidecar input
  refine ⟨replies, t', hserved, htree, houtput, ?_, hexit, ?_⟩
  · intro line hline c hc
    rw [houtput, List.mem_map] at hline
    obtain ⟨v, -, rfl⟩ := hline
    rw [Json.write, String.toList_ofList] at hc
    exact Json.isPrintable_writeChars v c hc
  · intro hmoderate
    obtain ⟨hall, hleft, hend⟩ := served_all fun text htext =>
      lost?_of_moderate (hmoderate text htext)
    refine ⟨?_, htree.trans (hleft settings t'), hexit.trans hend⟩
    rw [← hall]
    exact hserved.length_eq

/-- A short text is moderate. -/
theorem moderate_of_short {limit : Nat} (hlimit : limit ≤ Json.digitLimit) {text : String}
    (h : text.toList.length ≤ limit) : Moderate limit text where
  brackets := Nat.le_trans List.countP_le_length h
  digits _ hin _ := Nat.le_trans hin.length_le (Nat.le_trans h hlimit)

/-- A session with two requests, one of them no value. -/
theorem served_until_lost_sample :
    (∃ o, Options.ofWords ["--sidecar"] = .ok o ∧ o.sidecar = true) ∧
      ∃ replies,
        Served default default ["[1]", "oops"] replies
          (run default default ["--sidecar"] "[1]\n\n oops").1 ∧
        (run default default ["--sidecar"] "[1]\n\n oops").2.output =
          (readyReply :: replies).map Json.write ∧
        replies.length = 2 ∧
        (run default default ["--sidecar"] "[1]\n\n oops").2.exit = .code 0 := by
  have hwords : Options.ofWords ["--sidecar"] = .ok { Options.start with sidecar := true } := rfl
  have hrequests : requestTexts "[1]\n\n oops" = ["[1]", "oops"] := by decide
  have hmoderate : ∀ text ∈ ["[1]", "oops"], Moderate replyLimit text := by
    intro text htext
    simp only [List.mem_cons, List.not_mem_nil, or_false] at htext
    rcases htext with rfl | rfl <;> exact moderate_of_short (by decide) (by decide)
  have hwithin : (["[1]", "oops"].takeWhile fun text => (lost? text).isNone) =
      ["[1]", "oops"] := by decide
  obtain ⟨replies, t', hserved, -, houtput, -, -, hall⟩ :=
    served_until_lost default default hwords rfl "[1]\n\n oops"
  rw [hrequests] at hserved hall
  rw [hwithin] at hserved
  obtain ⟨hlength, htree, hexit⟩ := hall hmoderate
  rw [← htree] at hserved
  exact ⟨⟨_, hwords, rfl⟩, replies, hserved, houtput, hlength, hexit⟩

/-! ## A request with too many digits -/

/-- What is no carriage return stays when line ends are unified. -/
theorem unifyNewlines_append {front : List Char} (h : ∀ c ∈ front, c ≠ '\r')
    (rest done : List Char) :
    Text.unifyNewlines.go (front ++ rest) done =
      Text.unifyNewlines.go rest (front.reverse ++ done) := by
  induction front generalizing done with
  | nil => rfl
  | cons c front ih =>
      have hc := h c List.mem_cons_self
      rw [List.cons_append, Text.unifyNewlines.go, if_neg hc,
        ih fun d hd => h d (List.mem_cons_of_mem c hd)]
      · simp
      · exact fun more heq => absurd heq hc

/-- What is no line feed is gone on a line. -/
theorem feedLines_append {front : List Char} (h : ∀ c ∈ front, c ≠ '\n')
    (rest line : List Char) (done : List (List Char)) :
    Text.feedLines.go (front ++ rest) line done =
      Text.feedLines.go rest (front.reverse ++ line) done := by
  induction front generalizing line with
  | nil => rfl
  | cons c front ih =>
      have hc := h c List.mem_cons_self
      rw [List.cons_append, Text.feedLines.go,
        ih fun d hd => h d (List.mem_cons_of_mem c hd)]
      · simp
      · exact hc

/-- A number with this many digits. -/
def ones (n : Nat) : List Char := List.replicate n '1'

/-- The number on a line, and a list on the next. -/
def onesInput (n : Nat) : String := .ofList (ones n ++ ['\n', '[', ']', '\n'])

theorem mem_ones {n : Nat} {c : Char} (h : c ∈ ones n) : c = '1' := (List.mem_replicate.mp h).2

theorem inputLines_ones (n : Nat) : Text.inputLines (onesInput n) = [.ofList (ones n), "[]"] := by
  have hunify : Text.unifyNewlines (ones n ++ ['\n', '[', ']', '\n']) =
      ones n ++ ['\n', '[', ']', '\n'] := by
    rw [Text.unifyNewlines, unifyNewlines_append]
    · simp [Text.unifyNewlines.go]
    · intro c hc
      rw [mem_ones hc]
      decide
  have hfeed : Text.feedLines (ones n ++ ['\n', '[', ']', '\n']) = [ones n, ['[', ']']] := by
    rw [Text.feedLines, feedLines_append]
    · simp [Text.feedLines.go]
    · intro c hc
      rw [mem_ones hc]
      decide
  rw [Text.inputLines, onesInput, String.toList_ofList, hunify, hfeed]
  rfl

theorem trim_ones (n : Nat) : Text.trim (.ofList (ones n)) = .ofList (ones n) := by
  have hdrop : (ones n).dropWhile (fun c => Text.isBlank (.char c)) = ones n := by
    cases n with
    | zero => rfl
    | succ n => exact List.dropWhile_cons_of_neg (by decide)
  have hreverse : (ones n).reverse = ones n := List.reverse_replicate
  rw [Text.trim, String.toList_ofList, hdrop, Text.dropAtEnd, hreverse, hdrop, hreverse]

/-- The number goes beyond the limit of digits. -/
theorem beyond?_ones {n : Nat} (h : Json.digitLimit < n) :
    beyond? (.ofList (ones n)) = some (.tooManyDigits n) := by
  cases n with
  | zero => cases h
  | succ n =>
      have hdigit : ∀ c ∈ ones (n + 1), c.isDigit = true := by
        intro c hc
        rw [mem_ones hc]
        decide
      have hlength : (ones (n + 1)).length = n + 1 := List.length_replicate
      have hread : Json.readChars depthLimit ('1' :: ones n) =
          .error (.tooManyDigits ('1' :: ones n).length) :=
        Json.readChars_digits hdigit (by decide) (by rw [← hlength] at h; exact h)
      have hcount : ('1' :: ones n).length = n + 1 := hlength
      have hbeyond : Json.read depthLimit (.ofList (ones (n + 1))) =
          .error (.tooManyDigits (n + 1)) := by
        rw [Json.read, String.toList_ofList]
        rw [hcount] at hread
        exact hread
      simp [beyond?, receive, hbeyond]

/-- Such a number ends the session, and the list behind it gets no reply. -/
theorem run_onesInput {n : Nat} (h : Json.digitLimit < n) :
    requestTexts (onesInput n) = [.ofList (ones n), "[]"] ∧
      (run default default ["--sidecar"] (onesInput n)).2.output = [readyReply.write] ∧
      (run default default ["--sidecar"] (onesInput n)).2.exit = .uncaught "ValueError" := by
  have hne : String.ofList (ones n) ≠ "" := by
    cases n with
    | zero => cases h
    | succ n => simp [ones, List.replicate_succ]
  have hrequests : requestTexts (onesInput n) = [.ofList (ones n), "[]"] := by
    rw [requestTexts, inputLines_ones, requestsOf, List.map_cons, trim_ones,
      List.filter_cons_of_pos (by simpa using hne)]
    rfl
  have hlost : lost? (.ofList (ones n)) = some (.unread (.tooManyDigits n)) :=
    lost?_of_beyond (beyond?_ones h)
  obtain ⟨replies, _, hserved, -, hreplies, hfault⟩ :=
    served_of_take default (Text.inputLines (onesInput n)) (s := Session.start default) rfl
  rw [requestTexts] at hrequests
  rw [hrequests] at hserved hfault
  rw [List.takeWhile_cons_of_neg (by simp [hlost])] at hserved
  rw [List.findSome?_cons_of_isSome (by simp [hlost]), hlost] at hfault
  have hnone : replies = [] := List.eq_nil_of_length_eq_zero hserved.length_eq
  subst hnone
  refine ⟨hrequests, ?_, ?_⟩
  · show (serve default default (onesInput n)).replies.map Json.write = _
    rw [serve, hreplies]
    rfl
  · show (runSession default default false (onesInput n)).2.exit = _
    simp only [runSession, serve, hfault]
    rfl

/-- A session does not answer every request: one with 4301 digits ends it, and the request
behind it gets no reply either. -/
theorem unanswered_after_ones :
    (requestTexts (onesInput 4301)).length = 2 ∧
      (run default default ["--sidecar"] (onesInput 4301)).2.output = [readyReply.write] ∧
      (run default default ["--sidecar"] (onesInput 4301)).2.exit ≠ .code 0 := by
  obtain ⟨hrequests, houtput, hexit⟩ := run_onesInput (n := 4301) (by decide)
  refine ⟨?_, houtput, ?_⟩
  · rw [hrequests]
    rfl
  · rw [hexit]
    decide

end GoogIndex.Command
