/-
This file holds the failures of requests and their texts.
-/

namespace MeshConsole

/-- The failure of a request to the backend. -/
inductive RequestFailure where
  /-- There is no browser window to send the request from. -/
  | noWindow
  /-- The request never brought a reply. -/
  | network (message : String)
  /-- The backend replied with a status that is no success. -/
  | status (code : Nat) (message : String)
  /-- The body of the reply is not the expected record. -/
  | decode (reason : String)
deriving DecidableEq, Repr, Inhabited

/-- The full text of a failure. -/
def RequestFailure.text : RequestFailure → String
  | .noWindow => "no browser window available"
  | .network message => "network error: " ++ message
  | .status code message => "HTTP " ++ toString code ++ ": " ++ message
  | .decode reason => "unexpected response: " ++ reason

/-- The text for the user: the message of the backend if there is one, else the full text. -/
def RequestFailure.userMessage : RequestFailure → String
  | .status code message => if message.isEmpty then "HTTP " ++ toString code else message
  | other => other.text

end MeshConsole
