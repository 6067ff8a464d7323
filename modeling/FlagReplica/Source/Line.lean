import FlagReplica.Status.Basic

/-!
# The line to the stream's server

The line delivers what the server sends, and reconnects by itself after a delay. A source opens it,
breaks it off to have it reconnect, and closes it. A closed line delivers nothing, except that one
which lingers delivers one thing more, because its reader is already waiting for it.
-/

namespace FlagReplica

/-- An event on the stream. -/
structure StreamEvent where
  name : Text
  data : Text

/-- What a line delivers: an event, or that the connection was made, kept alive, or lost. A loss
without a fault is the orderly end of a connection. -/
inductive Delivered where
  | event (e : StreamEvent)
  | lost (fault : Option Fault)
  | comment
  | connected

/-- How much a line still delivers. -/
inductive LinePhase where
  | open
  | lingering
  | closed
deriving DecidableEq

/-- A line and the calls that have been made on it. -/
structure Line where
  /-- The address it was opened at, if it was. -/
  address : Option Text := none
  phase : LinePhase := .open
  /-- Whether it lingers when it is closed. -/
  lingers : Bool := false
  /-- How long it will wait before it reconnects. -/
  retryDelay : Millis := 0
  interrupts : Nat := 0
  closes : Nat := 0

namespace Line

/-- Opens the line. -/
def openAt (l : Line) (address : Text) : Line :=
  { l with address := some address }

/-- Breaks the connection off, so that the line reconnects. -/
def interrupt (l : Line) : Line :=
  { l with interrupts := l.interrupts + 1 }

/-- Closes the line. -/
def close (l : Line) : Line :=
  { l with
    closes := l.closes + 1
    phase := match l.phase with
      | .open => if l.lingers then .lingering else .closed
      | phase => phase }

/-- Delivers something: the last thing, if the line was closed before. -/
def deliver (l : Line) : Line :=
  { l with phase := if l.phase = .open then .open else .closed }

end Line

end FlagReplica
