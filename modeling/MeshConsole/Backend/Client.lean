/-
This file holds the calls that the console makes to the backend and the reading of their replies.
-/

import MeshConsole.Backend.Exchange
import MeshConsole.Backend.ListRequest
import MeshConsole.Backend.Collection
import MeshConsole.Log
import MeshConsole.Record.Pairing
import MeshConsole.Record.Reply

namespace MeshConsole

open Json Record

/-- The result of a call with the lines that it logs. -/
abbrev Logged (α : Type) := α × List LogLine

/-- A call is a request and the reading of a successful reply. -/
structure Call (α : Type) where
  request : Request
  read : Reply → Logged (Except RequestFailure α)

/-- The message of a reply that is no success: the one in a command reply, else the trimmed
body. -/
def Reply.failureMessage (reply : Reply) : String :=
  match ofText? CommandReply.decode? reply.body with
  | some command => command.message
  | none => Text.trimmed reply.body

/-- A failed exchange fails the call. A reply that is no success is logged and fails it too. -/
def Call.finish {α : Type} (call : Call α) (outcome : Except RequestFailure Reply) :
    Logged (Except RequestFailure α) :=
  match outcome with
  | .error error => (.error error, [])
  | .ok reply =>
    if reply.ok then call.read reply
    else
      let message := reply.failureMessage
      (.error (.status reply.status message),
        [.make .warn ("request failed with HTTP " ++ toString reply.status ++ ": " ++ message)])

/-- This function changes what a call yields. -/
def Call.map {α β : Type} (f : α → β) (call : Call α) : Call β :=
  { request := call.request
    read := fun reply =>
      let (result, lines) := call.read reply
      (result.map f, lines) }

/-- The backend below one root. -/
structure Client where
  base : String
deriving DecidableEq, Repr

/-- The root stands without slashes at its end. -/
def Client.rooted (base : String) : Client :=
  ⟨Text.withoutTrailingSlashes base⟩

/-- The address of a path below the root, with one slash between them. -/
def Client.url (client : Client) (path : String) : String :=
  client.base ++ "/" ++ Text.withoutLeadingSlashes path

/-- The address of one record. -/
def Client.recordUrl (client : Client) (collection : Collection) (key : String) : String :=
  client.url (collection.path ++ "/" ++ key)

/-- The reason of a body that is not the expected record. -/
def bodyFault : String := "the body is not the expected record"

/-- This function reads one record from a body. -/
def readRecord {α : Type} (decode : Nat → Written → Option α) (body : String) :
    Except RequestFailure α :=
  match ofText? decode body with
  | some record => .ok record
  | none => .error (.decode bodyFault)

/-- This call reads one record and logs nothing. -/
def Call.record {α : Type} (request : Request) (decode : Nat → Written → Option α) : Call α :=
  { request, read := fun reply => (readRecord decode reply.body, []) }

/-- The total of a list comes from its header, or else is the number of its records. -/
def readList {α : Type} (decode : Nat → Written → Option α) (collection : Collection)
    (reply : Reply) : Logged (Except RequestFailure (RecordPage α)) :=
  match readRecord (list? decode) reply.body with
  | .error error => (.error error, [])
  | .ok records =>
    let total := (reply.contentRange.bind contentRangeTotal?).getD records.length
    (.ok ⟨records, total⟩,
      [.make .debug (collection.path ++ " returned " ++ toString records.length ++ " of " ++
        toString total ++ " records")])

/-- This call lists records of a collection. -/
def Client.list {α : Type} (client : Client) (decode : Nat → Written → Option α)
    (collection : Collection) (wanted : ListRequest) : Call (RecordPage α) :=
  { request := ⟨.get, client.url collection.path ++ "?" ++ wanted.query, none⟩
    read := readList decode collection }

/-- This call fetches one record. -/
def Client.one {α : Type} (client : Client) (decode : Nat → Written → Option α)
    (collection : Collection) (key : String) : Call α :=
  .record ⟨.get, client.recordUrl collection key, none⟩ decode

/-- This call creates a record and yields the backend's copy. -/
def Client.create {α : Type} (client : Client) (decode : Nat → Written → Option α)
    (collection : Collection) (body : String) : Call α :=
  .record ⟨.post, client.url collection.path, some body⟩ decode

/-- This call replaces the editable members of a record and yields the backend's copy. -/
def Client.update {α : Type} (client : Client) (decode : Nat → Written → Option α)
    (collection : Collection) (key body : String) : Call α :=
  .record ⟨.put, client.recordUrl collection key, some body⟩ decode

/-- This call deletes a record. It does not look at the body of the reply. -/
def Client.delete (client : Client) (collection : Collection) (key : String) : Call Unit :=
  { request := ⟨.delete, client.recordUrl collection key, none⟩
    read := fun _ => (.ok (), []) }

/-- This call asks for the name and revision of the backend. -/
def Client.hello (client : Client) : Call Greeting :=
  .record ⟨.get, client.url "hello", none⟩ Greeting.decode?

/-- This call reboots a node and yields the message of the backend. A body that is no command
reply counts as an empty message. -/
def Client.reboot (client : Client) (id : NodeId) : Call String :=
  { request :=
      ⟨.post, client.url (Collection.autoNodes.path ++ "/" ++ toString id.value.toNat ++ "/reboot"),
        none⟩
    read := fun reply =>
      (.ok ((ofText? CommandReply.decode? reply.body).getD {}).message, []) }

/-- The course of a whole call: the request if it was sent, the result and the logged lines. -/
structure CallRun (α : Type) where
  sent : Option Request
  result : Except RequestFailure α
  lines : List LogLine

/-- This function runs a call in a browser. -/
def Call.run {α : Type} (call : Call α) (browser : Browser) : CallRun α :=
  let exchange := browser.exchange call.request
  let (result, lines) := call.finish exchange.outcome
  { sent := if exchange.sent then some call.request else none, result, lines }

end MeshConsole
