/-
This file classifies the outcomes of the calls to the backend. The main statement says, for every
call and every behaviour of the browser, which result the call has and whether it sends a request.
-/

import MeshConsole.Backend.Client

namespace MeshConsole

open Json Record

/-- What a client can be asked for, with the type of what it yields. Payloads are JSON texts. -/
inductive ClientTask : Type → Type 1 where
  | list {α : Type} (decode : Nat → Written → Option α) (collection : Collection)
      (wanted : ListRequest) : ClientTask (RecordPage α)
  | one {α : Type} (decode : Nat → Written → Option α) (collection : Collection) (key : String) :
      ClientTask α
  | create {α : Type} (decode : Nat → Written → Option α) (collection : Collection)
      (body : String) : ClientTask α
  | update {α : Type} (decode : Nat → Written → Option α) (collection : Collection)
      (key body : String) : ClientTask α
  | delete (collection : Collection) (key : String) : ClientTask Unit
  | hello : ClientTask Greeting
  | reboot (id : NodeId) : ClientTask String

/-- The call for a task. -/
def ClientTask.call (client : Client) : {α : Type} → ClientTask α → Call α
  | _, .list decode collection wanted => client.list decode collection wanted
  | _, .one decode collection key => client.one decode collection key
  | _, .create decode collection body => client.create decode collection body
  | _, .update decode collection key body => client.update decode collection key body
  | _, .delete collection key => client.delete collection key
  | _, .hello => client.hello
  | _, .reboot id => client.reboot id

/-- What the body of a successful reply stands for, if it stands for anything. Every body will do
for a deletion and for a reboot, whose message is empty when the body is no command reply. -/
def ClientTask.value? : {α : Type} → ClientTask α → Reply → Option α
  | _, .list decode _ _, reply =>
    (ofText? (list? decode) reply.body).map fun records =>
      ⟨records, (reply.contentRange.bind contentRangeTotal?).getD records.length⟩
  | _, .one decode _ _, reply => ofText? decode reply.body
  | _, .create decode _ _, reply => ofText? decode reply.body
  | _, .update decode _ _ _, reply => ofText? decode reply.body
  | _, .delete _ _, _ => some ()
  | _, .hello, reply => ofText? Greeting.decode? reply.body
  | _, .reboot _, reply =>
    some ((ofText? CommandReply.decode? reply.body).elim "" CommandReply.message)

/-- The steps that build a request, in order. Only a request with a body has headers. -/
def Request.buildSteps (request : Request) : List ExchangeStep :=
  (if request.body.isSome then [.makeHeaders, .setHeader] else []) ++ [.makeRequest]

/-- The steps from sending a request to having the body of its reply, in order. -/
def ExchangeStep.replySteps : List ExchangeStep :=
  [.fetch, .takeResponse, .openBody, .readBody]

/-- The value that the first failing one of some steps throws. -/
def Browser.firstFault? (browser : Browser) (steps : List ExchangeStep) : Option Thrown :=
  steps.findSome? browser.fault

/-- The request is built and there is a window to send it from. -/
def Browser.Sends (browser : Browser) (request : Request) : Prop :=
  browser.firstFault? request.buildSteps = none ∧ browser.hasWindow = true

/-- The request is sent and its reply arrives. -/
def Browser.Delivers (browser : Browser) (request : Request) : Prop :=
  browser.Sends request ∧ browser.firstFault? ExchangeStep.replySteps = none

/-- A failing step on the way to the reply throws a value. -/
def Browser.Loses (browser : Browser) (request : Request) (value : Thrown) : Prop :=
  browser.firstFault? request.buildSteps = some value ∨
    browser.Sends request ∧ browser.firstFault? ExchangeStep.replySteps = some value

/-- What holds of the run of a task in a browser. -/
structure TaskOutcome {α : Type} (task : ClientTask α) (client : Client) (browser : Browser)
    (run : CallRun α) : Prop where
  /-- At most one request is sent, and it is the one of the task. -/
  sent : ∀ request, run.sent = some request ↔
    (task.call client).request = request ∧ browser.Sends request
  /-- A value comes from a successful reply whose body stands for it. -/
  value : ∀ value, run.result = .ok value ↔
    browser.Delivers (task.call client).request ∧ browser.received.ok = true ∧
      task.value? browser.received = some value
  /-- A successful reply with any other body gives a failure to decode. -/
  decode : (∃ reason, run.result = .error (.decode reason)) ↔
    browser.Delivers (task.call client).request ∧ browser.received.ok = true ∧
      task.value? browser.received = none
  /-- A reply that is no success gives its status and the message of a command reply, or else the
  trimmed body. -/
  status : ∀ code message, run.result = .error (.status code message) ↔
    browser.Delivers (task.call client).request ∧ browser.received.ok = false ∧
      browser.received.status = code ∧
      (ofText? CommandReply.decode? browser.received.body).elim
        (Text.trimmed browser.received.body) CommandReply.message = message
  /-- A request that is built cannot be sent without a window. -/
  noWindow : run.result = .error .noWindow ↔
    browser.firstFault? (task.call client).request.buildSteps = none ∧ browser.hasWindow = false
  /-- Every other failure is one of the network, with the text of the thrown value. -/
  network : ∀ text, run.result = .error (.network text) ↔
    ∃ thrown, browser.Loses (task.call client).request thrown ∧ thrown.message = text

section Exchange

variable (browser : Browser) (request : Request)

/-- The first failing step is the first one if it fails, or else one of the others. -/
theorem Browser.firstFault?_cons (step : ExchangeStep) (rest : List ExchangeStep) :
    browser.firstFault? (step :: rest) = (browser.fault step).or (browser.firstFault? rest) := by
  rw [firstFault?, List.findSome?_cons]
  cases browser.fault step <;> rfl

/-- Before a request is sent, the browser looks for the first failing step that builds it. -/
theorem Browser.buildFault?_eq :
    browser.buildFault? request = browser.firstFault? request.buildSteps := by
  have headers : ∀ steps, browser.firstFault? ([.makeHeaders, .setHeader] ++ steps) =
      ((browser.fault .makeHeaders).or (browser.fault .setHeader)).or
        (browser.firstFault? steps) := by
    intro steps
    rw [List.cons_append, firstFault?_cons, List.singleton_append, firstFault?_cons,
      Option.or_assoc]
  have make : browser.firstFault? [.makeRequest] = browser.fault .makeRequest := by
    rw [firstFault?_cons]
    exact Option.or_none
  unfold buildFault? Request.buildSteps
  cases request.body with
  | none => exact make.symm
  | some body => exact ((headers _).trans (congrArg _ make)).symm

/-- After it is sent, the browser looks for the first failing step up to the body. -/
theorem Browser.replyFault?_eq :
    browser.replyFault? = browser.firstFault? ExchangeStep.replySteps := by
  unfold replyFault? ExchangeStep.replySteps
  simp only [firstFault?_cons, Option.or_assoc]
  exact congrArg _ (congrArg _ (congrArg _ Option.or_none.symm))

/-- An exchange loses its reply, lacks a window, or delivers its reply. -/
theorem Browser.exchange_cases :
    (∃ value, browser.firstFault? request.buildSteps = some value ∧
      browser.exchange request = .thrown false value) ∨
    (browser.firstFault? request.buildSteps = none ∧ browser.hasWindow = false ∧
      browser.exchange request = ⟨false, .error .noWindow⟩) ∨
    (∃ value, browser.Sends request ∧
      browser.firstFault? ExchangeStep.replySteps = some value ∧
      browser.exchange request = .thrown true value) ∨
    (browser.Delivers request ∧ browser.exchange request = ⟨true, .ok browser.received⟩) := by
  unfold exchange Delivers Sends
  rw [buildFault?_eq, replyFault?_eq]
  cases browser.firstFault? request.buildSteps with
  | some value => simp
  | none =>
      cases browser.hasWindow with
      | false => simp
      | true => cases browser.firstFault? ExchangeStep.replySteps <;> simp

end Exchange

section Replies

/-- A body gives the record that it decodes to, or a failure to decode. -/
theorem readRecord_eq {α : Type} (decode : Nat → Written → Option α) (body : String) :
    readRecord decode body = (ofText? decode body).elim (.error (.decode bodyFault)) .ok := by
  unfold readRecord
  cases ofText? decode body <;> rfl

/-- A successful reply gives the value that its body stands for, or a failure to decode. -/
theorem ClientTask.read_eq {α : Type} (task : ClientTask α) (client : Client) (reply : Reply) :
    ((task.call client).read reply).1 =
      (task.value? reply).elim (.error (.decode bodyFault)) .ok := by
  cases task with
  | list decode collection wanted =>
      simp only [call, value?, Client.list, readList, readRecord]
      cases ofText? (list? decode) reply.body <;> rfl
  | one decode collection key => exact readRecord_eq decode reply.body
  | create decode collection body => exact readRecord_eq decode reply.body
  | update decode collection key body => exact readRecord_eq decode reply.body
  | delete collection key => rfl
  | hello => exact readRecord_eq Greeting.decode? reply.body
  | reboot id =>
      simp only [call, value?, Client.reboot]
      cases ofText? CommandReply.decode? reply.body <;> rfl

/-- A reply that is no success gives its status and message. -/
theorem Call.finish_refused {α : Type} (call : Call α) {reply : Reply} (refused : reply.ok = false) :
    (call.finish (.ok reply)).1 = .error (.status reply.status
      ((ofText? CommandReply.decode? reply.body).elim (Text.trimmed reply.body)
        CommandReply.message)) := by
  have message : reply.failureMessage =
      (ofText? CommandReply.decode? reply.body).elim (Text.trimmed reply.body)
        CommandReply.message := by
    unfold Reply.failureMessage
    cases ofText? CommandReply.decode? reply.body <;> rfl
  rw [← message]
  simp [finish, refused]

/-- A successful reply gives what its body stands for. -/
theorem ClientTask.finish_ok {α : Type} (task : ClientTask α) (client : Client) {reply : Reply}
    (succeeded : reply.ok = true) :
    ((task.call client).finish (.ok reply)).1 =
      (task.value? reply).elim (.error (.decode bodyFault)) .ok := by
  rw [← task.read_eq client reply]
  simp [Call.finish, succeeded]

end Replies

/-- Every call to the backend ends with a value, a failure to decode, the status of the reply, the
lack of a window or a failure of the network, each exactly in its own case, and sends at most its
own request, whatever the browser and the backend do. -/
theorem clientTask_outcome {α : Type} (task : ClientTask α) (client : Client)
    (browser : Browser) :
    TaskOutcome task client browser ((task.call client).run browser) := by
  have result : ((task.call client).run browser).result =
      ((task.call client).finish (browser.exchange (task.call client).request).outcome).1 := rfl
  have sent : ((task.call client).run browser).sent =
      if (browser.exchange (task.call client).request).sent then some (task.call client).request
      else none := rfl
  rcases browser.exchange_cases (task.call client).request with
    ⟨thrown, unbuilt, exchanged⟩ | ⟨built, windowless, exchanged⟩ |
    ⟨thrown, ⟨built, window⟩, lost, exchanged⟩ | ⟨⟨⟨built, window⟩, arrived⟩, exchanged⟩ <;>
    rw [exchanged] at result sent
  · -- A step that builds the request fails.
    constructor <;>
      simp [result, sent, Exchange.thrown, Call.finish, Browser.Delivers, Browser.Sends,
        Browser.Loses, unbuilt]
  · -- There is no window.
    constructor <;>
      simp [result, sent, Call.finish, Browser.Delivers, Browser.Sends, Browser.Loses, built,
        windowless]
  · -- The request is sent and its reply is lost.
    constructor <;>
      simp [result, sent, Exchange.thrown, Call.finish, Browser.Delivers, Browser.Sends,
        Browser.Loses, built, window, lost]
  · -- The reply arrives. Only now the task makes a difference.
    cases succeeded : browser.received.ok with
    | false =>
        rw [Call.finish_refused _ succeeded] at result
        constructor <;>
          simp [result, sent, Browser.Delivers, Browser.Sends, Browser.Loses, built, window,
            arrived, succeeded]
    | true =>
        rw [task.finish_ok client succeeded] at result
        cases stands : task.value? browser.received <;> rw [stands] at result <;> constructor <;>
          simp [result, sent, Browser.Delivers, Browser.Sends, Browser.Loses, built, window,
            arrived, succeeded, stands]

/-- A refused deletion gives the trimmed body where there is no command reply. -/
example : (((ClientTask.delete .links "4").call ⟨"/api"⟩).run
    { reply := { status := 404, body := " gone " } }).result = .error (.status 404 "gone") := rfl

end MeshConsole
