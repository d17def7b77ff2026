/-
This file holds the replies of the command endpoints.
-/

import MeshConsole.Record.Fields

namespace MeshConsole

open Json Record

/-- The name and revision of the backend. -/
structure Greeting where
  name : String
  description : String := ""
  revision : String
deriving DecidableEq

/-- This function decodes a greeting. Only the description may be missing. -/
def Greeting.decode? (_room : Nat) (written : Written) : Option Greeting := do
  let fields ← fields? ["program_name", "program_description", "program_revision"] written
  let name ← required text? fields "program_name"
  let description ← optional text? "" fields "program_description"
  let revision ← required text? fields "program_revision"
  pure { name, description, revision }

/-- The body of a command reply, of success or of failure. -/
structure CommandReply where
  message : String := ""
deriving DecidableEq

/-- This function decodes a command reply. A missing message is empty. -/
def CommandReply.decode? (_room : Nat) (written : Written) : Option CommandReply := do
  let fields ← fields? ["message"] written
  let message ← optional text? "" fields "message"
  pure { message }

end MeshConsole
