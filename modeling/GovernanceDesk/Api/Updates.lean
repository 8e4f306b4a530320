import GovernanceDesk.Store

/-!
# Updates

Clients that listen are told that something has changed, never what.

* `Updates`: how many updates were sent so far.
* `Listener`: how many of them one client has passed on; one that falls behind is told the newest
  only.
* `Watcher`: notices changes that were made to the files themselves.
-/

namespace GovernanceDesk
set_option autoImplicit false

structure Updates where
  sent : Nat

namespace Updates

def none : Updates := ⟨0⟩

def send (u : Updates) : Updates := ⟨u.sent + 1⟩

/-- The text of one update as it goes through the stream. -/
def frame : String := "event: update\ndata: update\n\n"

/-- How many updates wait for a listener at most. -/
def room : Nat := 64

end Updates

/-! ## Listeners -/

structure Listener where
  passed : Nat

namespace Listener

/-- A client that starts to listen hears nothing of what was before. -/
def start (u : Updates) : Listener := ⟨u.sent⟩

def waiting (l : Listener) (u : Updates) : Nat :=
  min (u.sent - l.passed) Updates.room

/-- The frames that wait for a listener. -/
def frames (l : Listener) (u : Updates) : List String :=
  List.replicate (l.waiting u) Updates.frame

end Listener

/-! ## Watching the files -/

/-- When the newest manifest of a request was written. -/
def Store.newestManifest? (s : Store) : Option Nat :=
  ((s.files.children s.intakesPlace).filterMap fun e =>
    (s.files.find? (s.manifestPlace e.1)).map FileEntry.written).max?

structure Watcher where
  lastSeen : Option Nat

namespace Watcher

def start : Watcher := ⟨none⟩

/-- Whether the newest manifest is another than the one seen before. -/
def notices (w : Watcher) (s : Store) : Bool :=
  s.newestManifest?.isSome && s.newestManifest? != w.lastSeen

/-- What the watcher has seen after looking. Where nothing is there it remembers what it saw. -/
def look (w : Watcher) (s : Store) : Watcher :=
  ⟨s.newestManifest? <|> w.lastSeen⟩

end Watcher

end GovernanceDesk
