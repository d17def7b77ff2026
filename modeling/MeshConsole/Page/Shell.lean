/-
This file holds what surrounds every page: the title, the menu and the notices.
-/

import MeshConsole.Backend.Collection
import MeshConsole.Markup
import MeshConsole.Notice

namespace MeshConsole

namespace Shell

/-- The entries of the menu: addresses and captions. -/
def menu : List (String × String) :=
  ("/", "Dashboard") ::
  ((Collection.all.filter (· ≠ .neighbors)).map fun collection =>
    ("/" ++ collection.path, collection.label)) ++
  [("/discoverylive", "Discovery"), ("/showgraph", "Show Graph")]

/-- An element of the head of the document with its attributes. -/
structure HeadElement where
  kind : String
  attributes : List (String × String)
deriving DecidableEq, Repr

/-- The head of the document. -/
def head : List HeadElement :=
  [⟨"Html", [("attr:lang", "en"), ("attr:dir", "ltr"), ("attr:data-theme", "light")]⟩,
   ⟨"Title", [("text", "Mesh Network")]⟩,
   ⟨"Meta", [("charset", "UTF-8")]⟩,
   ⟨"Meta", [("name", "viewport"), ("content", "width=device-width, initial-scale=1.0")]⟩]

variable {event : Type}

/-- One notice. A click takes it away. -/
def noticeView (dismiss : Nat → event) (notice : Notice) : Markup event :=
  .element "div"
    { styleClass := notice.level.styleClass, reactions := { click := some (dismiss notice.id) } }
    [.text notice.text]

/-- The style class of the box around the notices. -/
def noticesClass : String := "notifications"

/-- The whole screen around a page. -/
def view (page : Markup event) (dismiss : Nat → event) (notices : List Notice) : Markup event :=
  .styled "div" "shell"
    [.styled "header" "app-bar" [.labelled "h1" "Mesh Network"],
     .styled "nav" "menu"
      [.plain "ul" (menu.map fun (address, caption) =>
        .plain "li" [.reference address caption])],
     .styled "main" "content" [page],
     .styled "div" noticesClass (notices.map (noticeView dismiss))]

end Shell

/-- The page for an unknown address. -/
def unknownPage {event : Type} : Markup event :=
  .styled "section" "not-found"
    [.labelled "h2" "Page not found", .reference "/" "Back to the dashboard"]

end MeshConsole
