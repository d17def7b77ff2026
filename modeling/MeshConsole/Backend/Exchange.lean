/-
This file holds one exchange with the backend: the request, the steps that the browser takes for
it, and the reply.
-/

import MeshConsole.Backend.Failure

namespace MeshConsole

/-- The method of a request. -/
inductive Method where
  | get
  | post
  | put
  | delete
deriving DecidableEq, Repr

/-- The name of a method. -/
def Method.name : Method → String
  | .get => "GET"
  | .post => "POST"
  | .put => "PUT"
  | .delete => "DELETE"

/-- A request to the backend. A body is always JSON. -/
structure Request where
  method : Method
  url : String
  body : Option String := none
deriving DecidableEq, Repr

/-- Every request stays on the origin of the page. -/
def Request.mode : String := "same-origin"

/-- Only a request with a body has a header. -/
def Request.headers (request : Request) : List (String × String) :=
  match request.body with
  | some _ => [("Content-Type", "application/json")]
  | none => []

/-- A reply of the backend as the browser hands it over. -/
structure Reply where
  status : Nat := 200
  /-- The browser calls the statuses from 200 to 299 a success. -/
  ok : Bool := 200 ≤ status ∧ status ≤ 299
  contentRange : Option String := none
  body : String := ""
deriving DecidableEq, Repr

/-- A value that the browser throws. -/
inductive Thrown where
  | text (message : String)
  | object (shown : String)
  | nothing
deriving DecidableEq, Repr

/-- The message of a thrown value: a text is the message itself. -/
def Thrown.message : Thrown → String
  | .text message => message
  | .object shown => "JsValue(" ++ shown ++ ")"
  | .nothing => "JsValue(undefined)"

/-- A thrown value where a text is expected. -/
def Thrown.asText : Thrown → String
  | .text message => message
  | _ => ""

/-- The steps of an exchange that can fail, in order. -/
inductive ExchangeStep where
  | makeHeaders
  | setHeader
  | makeRequest
  | fetch
  | takeResponse
  | readHeader
  | openBody
  | readBody
  | takeText
deriving DecidableEq, Repr

/-- The behaviour of the browser and the backend during one exchange. -/
structure Browser where
  hasWindow : Bool := true
  reply : Reply := {}
  /-- The value that a failing step throws. -/
  fault : ExchangeStep → Option Thrown := fun _ => none

/-- The outcome of an exchange, and whether the request was sent. -/
structure Exchange where
  sent : Bool
  outcome : Except RequestFailure Reply

/-- An exchange that failed with a thrown value. -/
def Exchange.thrown (sent : Bool) (value : Thrown) : Exchange :=
  ⟨sent, .error (.network value.message)⟩

/-- This function finds the first failure among the steps that build a request. The headers are
built only for a body. -/
def Browser.buildFault? (browser : Browser) (request : Request) : Option Thrown :=
  let headerFault :=
    if request.body.isSome then
      (browser.fault .makeHeaders).or (browser.fault .setHeader)
    else none
  headerFault.or (browser.fault .makeRequest)

/-- This function finds the first failure between sending a request and having its body. -/
def Browser.replyFault? (browser : Browser) : Option Thrown :=
  (((browser.fault .fetch).or (browser.fault .takeResponse)).or (browser.fault .openBody)).or
    (browser.fault .readBody)

/-- The reply that reaches the console. A header that cannot be read is missing, and a body that
is no text is the thrown text or empty. -/
def Browser.received (browser : Browser) : Reply :=
  { browser.reply with
    contentRange :=
      if (browser.fault .readHeader).isSome then none else browser.reply.contentRange
    body := match browser.fault .takeText with
      | some value => value.asText
      | none => browser.reply.body }

/-- The browser builds the request, needs a window to send it, and then takes the reply apart. -/
def Browser.exchange (browser : Browser) (request : Request) : Exchange :=
  match browser.buildFault? request with
  | some value => .thrown false value
  | none =>
    if browser.hasWindow then
      match browser.replyFault? with
      | some value => .thrown true value
      | none => ⟨true, .ok browser.received⟩
    else ⟨false, .error .noWindow⟩

end MeshConsole
