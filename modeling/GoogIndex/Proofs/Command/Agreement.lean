/-
  Proofs/Command/Agreement.lean --- requests of a session and commands run alone.

  Normative source: SPEC_FULL §4.5, the two modes of the program.

  A session is its requests carried out one by one, each as if the program were started for it
  alone.  Its reply says how that run ends, the storage behind it is what that run leaves, and
  the next request starts from there.  Nothing else passes from one request to the next.

  There is one exception.  A reply repeats the name of its request one container deeper than a
  run of its own would read it, so a request whose name is nested to the limit of reading is
  carried out and gets no reply, and the session ends there.
-/
import Mathlib.Data.List.Forall2
import Mathlib.Data.List.TakeWhile
import GoogIndex.Proofs.Command.Session
import GoogIndex.Proofs.Json.Halves

set_option autoImplicit false

namespace GoogIndex.Command

open GoogIndex.Scan GoogIndex.Storage

/-! ## Orders -/

/-- What a request asks for: the name for its reply, and a command with its project and the
text of its arguments. -/
structure Order where
  id : Json
  command : Text
  project : Text
  rawArgs : String

/-- The order is what the request's text asks for.  Its arguments are any text that is read as
the value the request has for them. -/
def Order.AskedBy (order : Order) (text : String) : Prop :=
  ∃ members args,
    receive text = .value (.obj members) ∧ idOf members = order.id ∧
    Json.member? members "command" = some (.str order.command) ∧
    Json.member? members "project" = some (.str order.project) ∧
    Json.member? members "args" = some args ∧ receive order.rawArgs = .value args

/-- Every request with a command, a project and arguments asks for an order, and the text of the
order's arguments may be the one that stands in the request. -/
theorem exists_order_of_receive {text : String} {command project : Text}
    {members : List (Text × Json)} {args : Json}
    (hobject : receive text = .value (.obj members))
    (hcommand : Json.member? members "command" = some (.str command))
    (hproject : Json.member? members "project" = some (.str project))
    (hargs : Json.member? members "args" = some args) :
    ∃ rawArgs : String, rawArgs.toList <:+: text.toList ∧
      (Order.mk (idOf members) command project rawArgs).AskedBy text := by
  obtain ⟨written, hwritten, hmembers⟩ :=
    Json.objectText_of_readChars (receive_eq_value_iff.mp hobject)
  obtain ⟨-, -, hvalues⟩ := Json.members_of_ofMembers hmembers
  rw [hvalues] at hargs
  obtain ⟨argsText, hin, hread⟩ :=
    Json.exists_valueText_of_mem hwritten (List.mem_reverse.mp (Json.mem_of_member? hargs))
  refine ⟨.ofList argsText, by rwa [String.toList_ofList], members, args, hobject, rfl, hcommand,
    hproject, by rw [hvalues, hargs], receive_eq_value_iff.mpr ?_⟩
  rwa [String.toList_ofList]

/-- The order carried out alone. -/
def Order.alone (order : Order) (settings : Settings) (t : Tree) : Ran SingleOutcome :=
  runSingle t settings order.command order.project order.rawArgs

theorem Order.runSingle_eq (order : Order) (settings : Settings) (t : Tree) :
    runSingle t settings order.command order.project order.rawArgs = order.alone settings t := rfl

/-- What orders leave when each is carried out alone, one after the other. -/
def storageAfter (settings : Settings) (t : Tree) (orders : List Order) : Tree :=
  orders.foldl (fun t order => (order.alone settings t).tree) t

theorem storageAfter_cons (settings : Settings) (t : Tree) (order : Order)
    (orders : List Order) :
    storageAfter settings t (order :: orders) =
      storageAfter settings (order.alone settings t).tree orders :=
  rfl

theorem storageAfter_take_succ (settings : Settings) (t : Tree) {orders : List Order} {k : Nat}
    (hk : k < orders.length) :
    storageAfter settings t (orders.take (k + 1)) =
      (orders[k].alone settings (storageAfter settings t (orders.take k))).tree := by
  rw [storageAfter, List.take_succ_eq_append_getElem hk, List.foldl_append]
  rfl

/-! ## Endings and replies -/

/-- The reply that says how a single command ended. -/
def SingleOutcome.reply? (id : Json) : SingleOutcome → Option Json
  | .printed result => some (resultReply id result)
  | .failed report => some (errorReply id report.label report.message)
  | .beyond _ => none

/-- A reply with a result says that the command printed it. -/
theorem SingleOutcome.eq_resultReply_iff {id reply result : Json} {outcome : SingleOutcome}
    (h : outcome.reply? id = some reply) :
    reply = resultReply id result ↔ outcome = .printed result := by
  cases outcome with
  | beyond f => cases h
  | printed other =>
      cases h
      simp [resultReply]
  | failed report =>
      cases h
      simp [resultReply, errorReply]

/-- A reply with an error says that the command failed with it. -/
theorem SingleOutcome.eq_errorReply_iff {id reply : Json} {label : String} {message : Text}
    {outcome : SingleOutcome} (h : outcome.reply? id = some reply) :
    reply = errorReply id label message ↔ outcome = .failed ⟨label, message⟩ := by
  cases outcome with
  | beyond f => cases h
  | printed other =>
      cases h
      simp [resultReply, errorReply]
  | failed report =>
      cases h
      cases report
      simp [errorReply]

/-! ## One request -/

/-- The command of a request that asks for an order. -/
theorem exists_of_askedBy {order : Order} {text : String} (h : order.AskedBy text) :
    ∃ members args,
      receive text = .value (.obj members) ∧ idOf members = order.id ∧
      receive order.rawArgs = .value args ∧
      ∀ t settings, carriedOut t settings members =
        dispatch t settings (.str order.command) (.str order.project) args := by
  obtain ⟨members, args, hobject, hid, hcommand, hproject, hargs, hraw⟩ := h
  refine ⟨members, args, hobject, hid, hraw, fun t settings => ?_⟩
  rw [carriedOut, hcommand, hproject, hargs]
  rfl

/-- A single command ends as its arguments' value makes it end, and leaves what that leaves. -/
theorem alone_of_value (t : Tree) (settings : Settings) {order : Order} {args : Json}
    (h : receive order.rawArgs = .value args) :
    let done := dispatch t settings (.str order.command) (.str order.project) args
    (order.alone settings t).tree = done.tree ∧
      (∀ result, done.outcome = .ok result →
        (order.alone settings t).outcome = .printed result) ∧
      ∀ f, done.outcome = .error f →
        (order.alone settings t).outcome = .failed ⟨f.label, f.message⟩ := by
  intro done
  have hdone : dispatch t settings (.str order.command) (.str order.project) args = done := rfl
  simp only [Order.alone, runSingle, h, hdone]
  cases houtcome : done.outcome with
  | ok result => simp
  | error f => simp

/-- The reply to a request says how its order ends alone, and the storage behind the reply is
what the order leaves. -/
theorem alone_of_replied {settings : Settings} {t t' : Tree} {text : String} {reply : Json}
    {order : Order} (hreplied : Replied settings t text reply t') (h : order.AskedBy text) :
    (order.alone settings t).outcome.reply? order.id = some reply ∧
      (order.alone settings t).tree = t' := by
  obtain ⟨members, args, hobject, hid, hraw, hcarried⟩ := exists_of_askedBy h
  obtain ⟨htree, hprinted, hfailed⟩ := alone_of_value t settings hraw
  cases hreplied with
  | result object done =>
      cases hobject.symm.trans object
      rw [hcarried] at done ⊢
      rw [hprinted _ done, ← hid]
      exact ⟨rfl, htree⟩
  | fault object failed =>
      cases hobject.symm.trans object
      rw [hcarried] at failed ⊢
      rw [hfailed _ failed, ← hid]
      exact ⟨rfl, htree⟩
  | noObject value other =>
      cases hobject.symm.trans value
      exact absurd rfl (other members)
  | malformed mistake => cases hobject.symm.trans mistake

/-- An order can be answered if its name leaves room for a reply. -/
def Order.Answerable (order : Order) : Prop := order.id.depth < replyLimit

instance Order.decidableAnswerable (order : Order) : Decidable order.Answerable :=
  inferInstanceAs (Decidable (_ < _))

/-- A request that asks for an order is lost exactly if the order cannot be answered. -/
theorem lost?_of_askedBy {text : String} {order : Order} (h : order.AskedBy text) :
    lost? text = if order.Answerable then none else some .unwritable := by
  obtain ⟨members, args, hobject, hid, -⟩ := h
  rw [lost?, hobject, ← ite_not]
  simp only [Order.Answerable, hid, Nat.not_lt]

/-- Whether or not it is answered, the request leaves what its order leaves alone. -/
theorem tree_of_askedBy (settings : Settings) (t : Tree) {text : String} {order : Order}
    (h : order.AskedBy text) :
    (answerText t settings text).tree = (order.alone settings t).tree := by
  obtain ⟨members, args, hobject, hid, hraw, hcarried⟩ := exists_of_askedBy h
  rw [(alone_of_value t settings hraw).1, ← hcarried, answerText, hobject]
  dsimp only
  cases hdone : (carriedOut t settings members).outcome with
  | ok result => rw [answerRequest_of_ok hdone]
  | error f => rw [answerRequest_of_error hdone]

/-- Alone an order ends in one of the two ways, whether or not it could be answered. -/
theorem settled_of_askedBy (settings : Settings) (t : Tree) (verbose : Bool) {text : String}
    {order : Order} (h : order.AskedBy text) :
    ∃ n ≤ 1, (runCommand t settings verbose order.command order.project order.rawArgs).2.exit =
      .code n := by
  obtain ⟨members, args, -, -, hraw, -⟩ := exists_of_askedBy h
  obtain ⟨-, hprinted, hfailed⟩ := alone_of_value t settings hraw
  simp only [runCommand, order.runSingle_eq]
  cases hdone : (dispatch t settings (.str order.command) (.str order.project) args).outcome with
  | ok result =>
      rw [hprinted result hdone]
      exact ⟨0, Nat.zero_le 1, rfl⟩
  | error f =>
      rw [hfailed f hdone]
      exact ⟨1, Nat.le_refl 1, rfl⟩

/-! ## All requests -/

/-- The orders of a session, carried out alone one after the other, end as the replies say and
leave the session's storage. -/
theorem alone_of_served {settings : Settings} {t t' : Tree} {texts : List String}
    {replies : List Json} {orders : List Order} (hserved : Served settings t texts replies t')
    (h : List.Forall₂ (fun text order => order.AskedBy text) texts orders) :
    t' = storageAfter settings t orders ∧
      ∀ k (hk : k < orders.length) (hreply : k < replies.length),
        (orders[k].alone settings (storageAfter settings t (orders.take k))).outcome.reply?
          orders[k].id = some replies[k] := by
  induction hserved generalizing orders with
  | nil =>
      cases h
      exact ⟨rfl, fun k hk => absurd hk (Nat.not_lt_zero k)⟩
  | cons first rest ih =>
      cases h with
      | cons hasked hrest =>
          obtain ⟨houtcome, htree⟩ := alone_of_replied first hasked
          obtain ⟨hstorage, hreplies⟩ := ih hrest
          rw [storageAfter_cons, htree]
          refine ⟨hstorage, fun k hk hreply => ?_⟩
          cases k with
          | zero => exact houtcome
          | succ k =>
              rw [List.take_succ_cons, storageAfter_cons, htree]
              exact hreplies k (Nat.lt_of_succ_lt_succ hk) (Nat.lt_of_succ_lt_succ hreply)

/-- The orders before the first one that cannot be answered. -/
def answered (orders : List Order) : List Order :=
  orders.takeWhile fun order => decide order.Answerable

theorem answered_append (orders : List Order) :
    answered orders ++ orders.dropWhile (fun order => decide order.Answerable) = orders :=
  List.takeWhile_append_dropWhile

theorem answered_eq_take (orders : List Order) :
    answered orders = orders.take (answered orders).length := by
  have h := congrArg (List.take (answered orders).length) (answered_append orders)
  rwa [List.take_left] at h

theorem answered_eq_self_iff {orders : List Order} :
    answered orders = orders ↔ ∀ order ∈ orders, order.Answerable := by
  rw [answered, List.takeWhile_eq_self_iff]
  simp only [decide_eq_true_eq]

section asked

variable {texts : List String} {orders : List Order}

/-- Requests that are not lost are those whose orders can be answered. -/
theorem askedBy_answered
    (h : List.Forall₂ (fun text order => order.AskedBy text) texts orders) :
    List.Forall₂ (fun text order => order.AskedBy text)
      (texts.takeWhile fun text => (lost? text).isNone) (answered orders) := by
  induction h with
  | nil => exact .nil
  | @cons text order texts orders hasked _ ih =>
      have hlost := lost?_of_askedBy hasked
      by_cases hanswer : order.Answerable
      · rw [if_pos hanswer] at hlost
        rw [List.takeWhile_cons_of_pos (by simp [hlost]), answered,
          List.takeWhile_cons_of_pos (by simpa using hanswer)]
        exact .cons hasked ih
      · rw [if_neg hanswer] at hlost
        rw [List.takeWhile_cons_of_neg (by simp [hlost]), answered,
          List.takeWhile_cons_of_neg (by simpa using hanswer)]
        exact .nil

/-- The first request that is lost leaves what its order leaves alone. -/
theorem storageLeft_of_askedBy (settings : Settings) (t : Tree)
    (h : List.Forall₂ (fun text order => order.AskedBy text) texts orders) :
    storageLeft settings t texts = storageAfter settings t
      ((orders.dropWhile fun order => decide order.Answerable).take 1) := by
  induction h with
  | nil => rfl
  | @cons text order texts orders hasked _ ih =>
      have hlost := lost?_of_askedBy hasked
      by_cases hanswer : order.Answerable
      · rw [if_pos hanswer] at hlost
        rw [List.dropWhile_cons_of_pos (by simpa using hanswer), ← ih, storageLeft, storageLeft,
          List.find?_cons_of_neg (by simp [hlost])]
      · rw [if_neg hanswer] at hlost
        rw [List.dropWhile_cons_of_neg (by simpa using hanswer), storageLeft,
          List.find?_cons_of_pos (by simp [hlost])]
        exact tree_of_askedBy settings t hasked

/-- A session ends well exactly if all its orders can be answered. -/
theorem exitOf_of_askedBy (h : List.Forall₂ (fun text order => order.AskedBy text) texts orders) :
    exitOf texts =
      if ∀ order ∈ orders, order.Answerable then .code 0 else .uncaught "RecursionError" := by
  induction h with
  | nil => rfl
  | @cons text order texts orders hasked _ ih =>
      have hlost := lost?_of_askedBy hasked
      by_cases hanswer : order.Answerable
      · rw [if_pos hanswer] at hlost
        simp only [exitOf, List.findSome?_cons, hlost, List.forall_mem_cons, hanswer, true_and]
        exact ih
      · rw [if_neg hanswer] at hlost
        simp only [exitOf, List.findSome?_cons, hlost, List.forall_mem_cons, hanswer, false_and,
          if_false]
        rfl

end asked

/-- A session whose requests all ask for an order serves those that can be answered, up to the
first that cannot. -/
theorem served_of_askedBy (t : Tree) (settings : Settings) {words : List String} {o : Options}
    (hwords : Options.ofWords words = .ok o) (hsidecar : o.sidecar = true) {input : String}
    {orders : List Order}
    (h : List.Forall₂ (fun text order => order.AskedBy text) (requestTexts input) orders) :
    ∃ replies t', replies.length = (answered orders).length ∧
      (∀ k (hk : k < (answered orders).length) (hreply : k < replies.length),
        ((answered orders)[k].alone settings
          (storageAfter settings t ((answered orders).take k))).outcome.reply?
            (answered orders)[k].id = some replies[k]) ∧
      t' = storageAfter settings t (answered orders) ∧
      (run t settings words input).1 = storageLeft settings t' (requestTexts input) ∧
      (run t settings words input).2.output = (readyReply :: replies).map Json.write := by
  obtain ⟨replies, t', hserved, hleft, houtput, -⟩ := served_of_run t settings hwords hsidecar input
  obtain ⟨hstorage, hreplies⟩ := alone_of_served hserved (askedBy_answered h)
  exact ⟨replies, t', hserved.length_eq.trans (askedBy_answered h).length_eq, hreplies, hstorage,
    hleft, houtput⟩

/-- A session leaves what its orders leave alone, up to the first one that cannot be answered. -/
theorem storage_of_askedBy (t : Tree) (settings : Settings) {words : List String} {o : Options}
    (hwords : Options.ofWords words = .ok o) (hsidecar : o.sidecar = true) {input : String}
    {orders : List Order}
    (h : List.Forall₂ (fun text order => order.AskedBy text) (requestTexts input) orders) :
    (run t settings words input).1 =
      storageAfter settings t (orders.take ((answered orders).length + 1)) := by
  obtain ⟨_, _, -, -, rfl, hleft, -⟩ := served_of_askedBy t settings hwords hsidecar h
  have htake : orders.take ((answered orders).length + 1) =
      answered orders ++ (orders.dropWhile fun order => decide order.Answerable).take 1 := by
    have happend := congrArg (List.take ((answered orders).length + 1)) (answered_append orders)
    rwa [List.take_length_add_append, eq_comm] at happend
  rw [hleft, storageLeft_of_askedBy settings _ h, htake]
  simp only [storageAfter, List.foldl_append]

/-! ## Agreement -/

/-- The reply in a session and the storage behind it are those of the order as a run of its
own, on the storage from before. -/
structure Agreement (settings : Settings) (before : Tree) (order : Order) (reply : Json)
    (after : Tree) : Prop where
  /-- the reply has a result if and only if the run prints it -/
  result : ∀ result,
    reply = resultReply order.id result ↔ (order.alone settings before).outcome = .printed result
  /-- the reply has an error if and only if the run fails with it -/
  error : ∀ label message,
    reply = errorReply order.id label message ↔
      (order.alone settings before).outcome = .failed ⟨label, message⟩
  /-- the run ends in one of the two ways, with code 0 behind its one line or with code 1 and a
  report in the end -/
  exit : ∀ verbose,
    let transcript := (runCommand before settings verbose order.command order.project
      order.rawArgs).2
    (∃ result, reply = resultReply order.id result ∧
        transcript.exit = .code 0 ∧ transcript.output = [result.write]) ∨
      ∃ label message, reply = errorReply order.id label message ∧
        transcript.exit = .code 1 ∧ transcript.output = [] ∧
        transcript.errors.getLast? = some (FailureReport.toJson ⟨label, message⟩).write
  storage : ∀ verbose,
    after = (runCommand before settings verbose order.command order.project order.rawArgs).1

/-- A reply that says how the run ends agrees with it. -/
theorem agreement_of_reply {settings : Settings} {before : Tree} {order : Order} {reply : Json}
    (h : (order.alone settings before).outcome.reply? order.id = some reply) :
    Agreement settings before order reply (order.alone settings before).tree where
  result _ := SingleOutcome.eq_resultReply_iff h
  error _ _ := SingleOutcome.eq_errorReply_iff h
  exit verbose := by
    simp only [runCommand, order.runSingle_eq]
    cases houtcome : (order.alone settings before).outcome with
    | beyond f =>
        rw [houtcome] at h
        cases h
    | printed result =>
        rw [houtcome] at h
        cases h
        exact .inl ⟨result, rfl, rfl, rfl⟩
    | failed report =>
        rw [houtcome] at h
        cases h
        exact .inr ⟨report.label, report.message, rfl, rfl, rfl, List.getLast?_concat⟩
  storage verbose := by
    simp only [runCommand, order.runSingle_eq]
    cases (order.alone settings before).outcome <;> rfl

/-- A session of requests that ask for orders prints that it is ready and one reply for each, up to
the first order that cannot be answered because its name nests too deep.  Each reply, and the
storage behind it, is that of the order as a run of its own on the storage that a session of the
requests before it leaves.  The session ends with code 0 if and only if every order can be
answered; otherwise it ends uncaught, although the order that ended it was carried out, and as a
run of its own would have ended with code 0 or 1 like any other. -/
theorem session_agrees_until_nested (t : Tree) (settings : Settings) {words : List String}
    {o : Options} (hwords : Options.ofWords words = .ok o) (hsidecar : o.sidecar = true)
    {input : String} {orders : List Order}
    (h : List.Forall₂ (fun text order => order.AskedBy text) (requestTexts input) orders) :
    ((run t settings words input).2.exit = .code 0 ↔ ∀ order ∈ orders, order.Answerable) ∧
      ((∃ order ∈ orders, ¬ order.Answerable) →
        (run t settings words input).2.exit = .uncaught "RecursionError") ∧
      (∀ order ∈ orders, ∀ before verbose, ∃ n ≤ 1,
        (runCommand before settings verbose order.command order.project order.rawArgs).2.exit =
          .code n) ∧
      (run t settings words input).1 =
        storageAfter settings t (orders.take ((answered orders).length + 1)) ∧
      (∀ k inputBefore, k ≤ (answered orders).length →
        requestTexts inputBefore = (requestTexts input).take k →
        (run t settings words inputBefore).1 = storageAfter settings t (orders.take k)) ∧
      ∃ replies, (run t settings words input).2.output = (readyReply :: replies).map Json.write ∧
        replies.length = (answered orders).length ∧
        ∀ k (hk : k < orders.length) (hreply : k < replies.length),
          Agreement settings (storageAfter settings t (orders.take k)) orders[k] replies[k]
            (storageAfter settings t (orders.take (k + 1))) := by
  obtain ⟨_, _, -, -, -, hexit⟩ := served_of_run t settings hwords hsidecar input
  rw [exitOf_of_askedBy h] at hexit
  obtain ⟨replies, _, hlength, hreplies, -, -, houtput⟩ :=
    served_of_askedBy t settings hwords hsidecar h
  refine ⟨?_, ?_, ?_, storage_of_askedBy t settings hwords hsidecar h, ?_, replies, houtput,
    hlength, ?_⟩
  · rw [hexit]
    split
    · simp_all
    · simp_all
  · rintro ⟨order, hmem, hdeep⟩
    rw [hexit, if_neg fun hall => hdeep (hall order hmem)]
  · intro order hmem before verbose
    obtain ⟨k, hk, rfl⟩ := List.getElem_of_mem hmem
    exact settled_of_askedBy settings before verbose (h.get (h.length_eq ▸ hk) hk)
  · intro k inputBefore hk hbefore
    have hfront : List.Forall₂ (fun text order => order.AskedBy text)
        (requestTexts inputBefore) (orders.take k) := by
      rw [hbefore]
      exact List.forall₂_take k h
    have hall : answered (orders.take k) = orders.take k := by
      refine answered_eq_self_iff.mpr fun order hmem => ?_
      have hmem' : order ∈ answered orders := by
        rw [answered_eq_take]
        exact List.take_subset_take_left orders hk hmem
      exact of_decide_eq_true
        (List.mem_takeWhile_imp (p := fun order : Order => decide order.Answerable) hmem')
    rw [storage_of_askedBy t settings hwords hsidecar hfront, hall,
      List.take_of_length_le (Nat.le_succ _)]
  · intro k hk hreply
    have hk' : k < (answered orders).length := hlength ▸ hreply
    have hfront : (answered orders).take k = orders.take k := by
      rw [answered_eq_take, List.take_take, Nat.min_eq_left (Nat.le_of_lt hk')]
    have hget : (answered orders)[k] = orders[k] :=
      (List.takeWhile_prefix fun order : Order => decide order.Answerable).getElem hk'
    have hreply' := hreplies k hk' hreply
    rw [hfront, hget] at hreply'
    rw [storageAfter_take_succ settings t hk]
    exact agreement_of_reply hreply'

/-- A line that asks for a file, with arguments that have no members. -/
def extractLine : String :=
  "\x7b\"id\":1,\"command\":\"extract\",\"project\":\"a.js\",\"args\":[]\x7d"

/-- A line that asks for a scan and has no name for its reply. -/
def scanLine : String := "\x7b\"command\":\"scan\",\"project\":\"p\",\"args\":\x7b\x7d\x7d"

/-- The two orders, with other texts for the arguments. -/
def twoOrders : List Order :=
  [⟨.int 1, "extract", "a.js", " [ ] "⟩, ⟨.null, "scan", "p", "\x7b \x7d"⟩]

theorem askedBy_twoOrders :
    List.Forall₂ (fun text order => order.AskedBy text) [extractLine, scanLine] twoOrders :=
  .cons
    ⟨[("id", .int 1), ("command", .str "extract"), ("project", .str "a.js"), ("args", .arr [])],
      .arr [], rfl, rfl, rfl, rfl, rfl, rfl⟩
    (.cons
      ⟨[("command", .str "scan"), ("project", .str "p"), ("args", .obj [])], .obj [], rfl, rfl, rfl,
        rfl, rfl, rfl⟩
      .nil)

/-- A session on the two lines, with a blank line between them. -/
theorem session_agrees_until_nested_sample :
    (run default default ["--sidecar"] (extractLine ++ "\n\n" ++ scanLine)).2.exit = .code 0 ∧
      ∃ replies,
        (run default default ["--sidecar"] (extractLine ++ "\n\n" ++ scanLine)).2.output =
          (readyReply :: replies).map Json.write ∧
        replies.length = 2 ∧
        ∀ hreply : 1 < replies.length,
          Agreement default (storageAfter default default (twoOrders.take 1))
            ⟨.null, "scan", "p", "\x7b \x7d"⟩ replies[1]
            (storageAfter default default twoOrders) := by
  have hwords : Options.ofWords ["--sidecar"] = .ok { Options.start with sidecar := true } := rfl
  have hasked : List.Forall₂ (fun text order => order.AskedBy text)
      (requestTexts (extractLine ++ "\n\n" ++ scanLine)) twoOrders := by
    have hrequests : requestTexts (extractLine ++ "\n\n" ++ scanLine) =
        [extractLine, scanLine] := by decide
    rw [hrequests]
    exact askedBy_twoOrders
  have hanswerable : ∀ order ∈ twoOrders, order.Answerable := by decide
  obtain ⟨hexit, -, -, -, -, replies, houtput, hlength, hagree⟩ :=
    session_agrees_until_nested default default hwords rfl hasked
  rw [answered_eq_self_iff.mpr hanswerable] at hlength
  exact ⟨hexit.mpr hanswerable, replies, houtput, hlength, hagree 1 (by decide)⟩

/-! ### A name that nests too deep -/

/-- Lists within each other. -/
def nested : Nat → Json
  | 0 => .arr []
  | n + 1 => .arr [nested n]

theorem depth_nested (n : Nat) : (nested n).depth = n + 1 := by
  induction n with
  | zero => rfl
  | succ n ih => simp [nested, Json.depth, Json.itemsDepth, ih]

theorem plain_nested (n : Nat) : Json.Plain (n + 1) (nested n) := by
  induction n with
  | zero => trivial
  | succ n ih => exact ⟨ih, trivial⟩

theorem whole_nested (n : Nat) : (nested n).Whole := by
  induction n with
  | zero => trivial
  | succ n ih => exact ⟨ih, trivial⟩

/-- A request with such a name. -/
def nestedMembers (n : Nat) : List (Text × Json) :=
  [("id", nested n), ("command", .str "extract"), ("project", .str "a.js"), ("args", .obj [])]

/-- What it asks for. -/
def nestedOrder (n : Nat) : Order := ⟨nested n, "extract", "a.js", "\x7b\x7d"⟩

theorem askedBy_nested {n : Nat} (h : n + 2 = depthLimit) :
    (nestedOrder n).AskedBy (Json.obj (nestedMembers n)).write := by
  have hkeys : [("id" : Text), "command", "project", "args"].Nodup := by decide
  have htexts := Json.unsplit_ofString
  have hwhole : (Json.obj (nestedMembers n)).Whole :=
    ⟨⟨htexts _, whole_nested n⟩, ⟨htexts _, htexts _⟩, ⟨htexts _, htexts _⟩, ⟨htexts _, trivial⟩,
      trivial⟩
  have hplain : Json.Plain depthLimit (.obj (nestedMembers n)) := by
    rw [← h, Json.Plain, Json.joinedMembers_of_whole hwhole]
    exact ⟨hkeys, plain_nested n, trivial, trivial, ⟨List.nodup_nil, trivial⟩, trivial⟩
  have hobject : receive (Json.obj (nestedMembers n)).write = .value (.obj (nestedMembers n)) := by
    rw [receive, Json.read_write_of_whole hplain hwhole]
  have hargs : receive "\x7b\x7d" = .value (.obj []) := rfl
  exact ⟨nestedMembers n, .obj [], hobject, rfl, rfl, rfl, rfl, hargs⟩

/-- A line with an object on it is a request. -/
theorem requestTexts_write (members : List (Text × Json)) :
    requestTexts (Json.obj members).write = [(Json.obj members).write] := by
  have hprintable : ∀ c ∈ Json.writeChars (.obj members), Json.IsPrintable c :=
    Json.isPrintable_writeChars _
  have hne : ∀ d : Char, ¬ Json.IsPrintable d → ∀ c ∈ Json.writeChars (.obj members), c ≠ d := by
    rintro d hd c hc rfl
    exact hd (hprintable c hc)
  have hunify : Text.unifyNewlines (Json.writeChars (.obj members)) =
      Json.writeChars (.obj members) := by
    have happend := unifyNewlines_append (hne '\r' (by decide)) [] []
    simpa [Text.unifyNewlines, Text.unifyNewlines.go] using happend
  have hfeed : Text.feedLines (Json.writeChars (.obj members)) =
      [Json.writeChars (.obj members)] := by
    have happend := feedLines_append (hne '\n' (by decide)) [] [] []
    rw [List.append_nil] at happend
    rw [Text.feedLines, happend]
    simp [Json.writeChars, Text.feedLines.go]
  have htrim : Text.trim (Json.obj members).write = (Json.obj members).write := by
    have hbrace : Text.isBlank '\x7b' = false ∧ Text.isBlank '\x7d' = false := by decide
    rw [Text.trim, Json.write, String.toList_ofList, Text.dropAtEnd, Json.writeChars,
      List.dropWhile_cons_of_neg (by simp [hbrace.1]), List.reverse_cons, List.reverse_append,
      List.reverse_singleton, List.singleton_append, List.cons_append,
      List.dropWhile_cons_of_neg (by simp [hbrace.2])]
    simp
  have hsome : (Json.obj members).write ≠ "" := by simp [Json.write, Json.writeChars]
  have hline : String.ofList (Json.writeChars (.obj members)) = (Json.obj members).write := rfl
  rw [requestTexts, Text.inputLines, Json.write, String.toList_ofList, hunify, hfeed, requestsOf,
    List.map_singleton, List.map_singleton, hline, htrim,
    List.filter_cons_of_pos (by simpa using hsome)]
  rfl

/-- Not every request that asks for an order gets a reply: one whose name has 989 lists within each
other ends the session, but as a run of its own its order ends like any other. -/
theorem unanswered_after_nested :
    let line := (Json.obj (nestedMembers 988)).write
    (nestedOrder 988).AskedBy line ∧ requestTexts line = [line] ∧
      (run default default ["--sidecar"] line).2.output = [readyReply.write] ∧
      (run default default ["--sidecar"] line).2.exit = .uncaught "RecursionError" ∧
      ∃ n ≤ 1, (runCommand default default false "extract" "a.js" "\x7b\x7d").2.exit = .code n := by
  intro line
  have hasked : (nestedOrder 988).AskedBy line := askedBy_nested rfl
  have hrequests : requestTexts line = [line] := requestTexts_write _
  have hall : List.Forall₂ (fun text order => order.AskedBy text) (requestTexts line)
      [nestedOrder 988] := by
    rw [hrequests]
    exact .cons hasked .nil
  have hdeep : ¬ (nestedOrder 988).Answerable := by
    rw [Order.Answerable, nestedOrder, depth_nested]
    decide
  have hnone : answered [nestedOrder 988] = [] := by simp [answered, hdeep]
  have hwords : Options.ofWords ["--sidecar"] = .ok { Options.start with sidecar := true } := rfl
  obtain ⟨replies, _, hlength, -, -, -, houtput⟩ :=
    served_of_askedBy default default hwords rfl hall
  rw [hnone] at hlength
  obtain ⟨_, _, -, -, -, hexit⟩ := served_of_run default default hwords rfl line
  refine ⟨hasked, hrequests, ?_, ?_, settled_of_askedBy default default false hasked⟩
  · rw [houtput, List.eq_nil_of_length_eq_zero hlength]
    rfl
  · rw [hexit, exitOf_of_askedBy hall]
    simp [hdeep]

end GoogIndex.Command
