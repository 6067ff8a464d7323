import FlagReplica.Text.Basic

/-!
# A lock for readers and writers

Any number of readers may be inside at once, or a single writer. A writer that waits keeps new
readers out, so that readers who come and go cannot starve it. Whoever cannot enter sleeps until
woken; the last reader to leave and every writer that leaves wake all sleepers, and each of them
then looks again whether it may enter. `SharedLock.recheck` is one such look. The order of the looks
is not determined; `settle` takes them in the order of arrival.
-/

namespace FlagReplica

/-- What a party wants inside for. -/
inductive Role where
  | reader
  | writer
deriving DecidableEq

/-- Somebody who is inside, or wants to be. -/
structure Party where
  name : Text
  role : Role
deriving DecidableEq

/-- A party that waits. It is awake from when it is woken until it has looked. -/
structure Waiter where
  party : Party
  awake : Bool
deriving DecidableEq

/-- A lock with the counts it decides by, and with who is inside and who waits. -/
structure SharedLock where
  readers : Nat := 0
  writing : Bool := false
  writersWaiting : Nat := 0
  inside : List Party := []
  waiting : List Waiter := []
deriving DecidableEq

namespace SharedLock

/-- Whether a party of a role may enter now. A writer does not count itself as waiting. -/
def mayEnter (l : SharedLock) : Role → Bool
  | .reader => !l.writing && l.writersWaiting == 0
  | .writer => !l.writing && l.readers == 0

/-- Lets a party in. -/
def letIn (l : SharedLock) (p : Party) : SharedLock :=
  match p.role with
  | .reader => { l with readers := l.readers + 1, inside := l.inside ++ [p] }
  | .writer => { l with writing := true, inside := l.inside ++ [p] }

/-- A party comes and enters if it may; else it waits asleep, and a writer is counted. -/
def arrive (l : SharedLock) (p : Party) : SharedLock :=
  if l.mayEnter p.role then l.letIn p
  else
    { l with
      writersWaiting := if p.role = .writer then l.writersWaiting + 1 else l.writersWaiting
      waiting := l.waiting ++ [⟨p, false⟩] }

/-- Wakes every sleeper. -/
def wakeAll (l : SharedLock) : SharedLock :=
  { l with waiting := l.waiting.map fun w => { w with awake := true } }

/-- A party that is inside leaves, whether its work succeeded or not. -/
def leave (l : SharedLock) (p : Party) : SharedLock :=
  let l := { l with inside := l.inside.erase p }
  match p.role with
  | .reader =>
    let l := { l with readers := l.readers - 1 }
    if l.readers = 0 then l.wakeAll else l
  | .writer => { l with writing := false }.wakeAll

/-- A woken party looks whether it may enter, and sleeps again if it may not. -/
def recheck (l : SharedLock) (p : Party) : SharedLock :=
  if l.waiting.contains ⟨p, true⟩ then
    let others := l.waiting.erase ⟨p, true⟩
    if l.mayEnter p.role then
      let writersWaiting := if p.role = .writer then l.writersWaiting - 1 else l.writersWaiting
      { l with writersWaiting, waiting := others }.letIn p
    else
      { l with waiting := l.waiting.map fun w => if w = ⟨p, true⟩ then ⟨p, false⟩ else w }
  else l

/-- Lets every woken party look once, in the order of arrival. -/
def settle (l : SharedLock) : SharedLock :=
  (l.waiting.filter (·.awake)).foldl (fun l w => l.recheck w.party) l

/-- The party of a name that is inside. -/
def insider? (l : SharedLock) (name : Text) : Option Party :=
  l.inside.find? (·.name = name)

end SharedLock

end FlagReplica
