/-
This file holds the notices on the screen.
-/

namespace MeshConsole

/-- A notice tells of a success or of a failure. -/
inductive NoticeLevel where
  | info
  | error
deriving DecidableEq, Repr

/-- The style class of a notice. -/
def NoticeLevel.styleClass : NoticeLevel → String
  | .info => "notification info"
  | .error => "notification error"

/-- One notice. -/
structure Notice where
  id : Nat
  level : NoticeLevel
  text : String
deriving DecidableEq, Repr

/-- The notices on the screen, the oldest first. -/
structure NoticeQueue where
  notices : List Notice := []
  /-- The identifier of the newest notice so far. -/
  newest : Nat := 0
deriving DecidableEq, Repr

/-- This function shows a new notice and gives it the next identifier. -/
def NoticeQueue.push (queue : NoticeQueue) (level : NoticeLevel) (text : String) :
    NoticeQueue × Nat :=
  let id := queue.newest + 1
  ({ notices := queue.notices ++ [⟨id, level, text⟩], newest := id }, id)

/-- This function takes a notice away. An unknown identifier changes nothing. -/
def NoticeQueue.dismiss (queue : NoticeQueue) (id : Nat) : NoticeQueue :=
  { queue with notices := queue.notices.filter fun notice => notice.id ≠ id }

/-- A notice takes itself away after this many milliseconds. -/
def noticeTime : Nat := 5000

/-- A timer takes one notice away. -/
structure NoticeTimer where
  due : Nat
  notice : Nat
deriving DecidableEq, Repr

/-- The notices on the screen with the clock and the timers that take them away. -/
structure NoticeBoard where
  queue : NoticeQueue := {}
  /-- The milliseconds since the start. -/
  now : Nat := 0
  timers : List NoticeTimer := []
deriving DecidableEq, Repr

instance : Inhabited NoticeBoard := ⟨{}⟩

/-- A new notice comes with a timer of its own. -/
def NoticeBoard.raise (board : NoticeBoard) (level : NoticeLevel) (text : String) :
    NoticeBoard :=
  let (queue, id) := board.queue.push level text
  { board with queue, timers := board.timers ++ [⟨board.now + noticeTime, id⟩] }

/-- The user takes a notice away. Its timer stays and will find nothing. -/
def NoticeBoard.dismiss (board : NoticeBoard) (id : Nat) : NoticeBoard :=
  { board with queue := board.queue.dismiss id }

/-- A timer fires. -/
def NoticeBoard.expire (board : NoticeBoard) (timer : NoticeTimer) : NoticeBoard :=
  { board with
    queue := board.queue.dismiss timer.notice
    timers := board.timers.erase timer }

/-- Time passes, and every timer that is due fires. -/
def NoticeBoard.wait (board : NoticeBoard) (milliseconds : Nat) : NoticeBoard :=
  let later := { board with now := board.now + milliseconds }
  (later.timers.filter fun timer => timer.due ≤ later.now).foldl NoticeBoard.expire later

end MeshConsole
