import FlagReplica.Notice

/-!
# Audiences

The listeners that hear each value of a feed. A listener is registered by its callback's name, any
number of times. Without a dispatcher a value is heard by everybody before `notify` is done; with
one it waits in a queue, and the dispatcher delivers the queue in order. Who hears a value is
settled when its delivery begins. A callback that has heard a value reacts to it: it may register
and remove callbacks and notify further values, and it may fail, which is reported and stops nobody
else.

`Audience.step` is one callback's turn, one reaction, or the beginning or end of a delivery.
Deliveries that are under way nest: a value notified by a callback without a dispatcher is delivered
to the end before the callback goes on.
-/

namespace FlagReplica

/-- One thing that a callback does about a value. -/
inductive Reaction (ν : Type) where
  | add (name : Text)
  | remove (name : Text)
  | notify (value : ν)
  /-- The callback fails and does nothing more. -/
  | fail (fault : Fault)

/-- A callback: what it does about a value, in order, after it has heard it. That may depend on
everything that was heard before. -/
structure Callback (ν : Type) where
  name : Text
  reactions : List (Text × ν) → ν → List (Reaction ν)

/-- A callback that only hears. -/
def Callback.silent {ν : Type} (name : Text) : Callback ν :=
  ⟨name, fun _ _ => []⟩

/-- A callback that fails at every value. -/
def Callback.failing {ν : Type} (name : Text) (fault : Fault) : Callback ν :=
  ⟨name, fun _ _ => [.fail fault]⟩

/-- A value on its way to callbacks: the names of those that have yet to hear it, and what the one
that heard it last has still to do. -/
structure Delivery (ν : Type) where
  value : ν
  waiting : List Text
  pending : List (Reaction ν) := []

/-- The listeners of a feed and what they have heard. -/
structure Audience (ν : Type) where
  /-- What the type of a value is called in notices. -/
  typeName : ν → Text
  /-- The name of the dispatcher, if there is one. -/
  dispatcher : Option Text
  /-- Callbacks that have been described, one for each name. -/
  described : List (Callback ν) := []
  /-- The names of the registered callbacks, one for each registration, in order. -/
  registered : List Text := []
  /-- Values that wait for the dispatcher. -/
  queue : List ν := []
  /-- Whether the latest dispatcher is still running, if there has been one. -/
  dispatching : Option Bool := none
  /-- Deliveries that have begun, the innermost first. -/
  underWay : List (Delivery ν) := []
  /-- Everything heard so far: the callback's name and the value. -/
  heard : List (Text × ν) := []
  /-- Failures of callbacks. -/
  notices : List Notice := []

namespace Audience

variable {ν : Type}

/-! ## Registration -/

/-- The callback of a name; a name that has not been described belongs to one that only hears. -/
def callback (a : Audience ν) (name : Text) : Callback ν :=
  (a.described.find? (·.name = name)).getD (.silent name)

/-- Describes a callback; the first description of a name stands. -/
def describe (a : Audience ν) (c : Callback ν) : Audience ν :=
  if a.described.any (·.name = c.name) then a else { a with described := a.described ++ [c] }

/-- Registers a callback once more. One that has not been described only hears, from then on too. -/
def add (a : Audience ν) (name : Text) : Audience ν :=
  let a := a.describe (.silent name)
  { a with registered := a.registered ++ [name] }

/-- Takes back the first registration of a callback, if there is one. -/
def remove (a : Audience ν) (name : Text) : Audience ν :=
  { a with registered := a.registered.erase name }

/-- Whether anybody is registered. -/
def hasListeners (a : Audience ν) : Bool :=
  !a.registered.isEmpty

/-! ## Delivery -/

/-- Hands over a value: to the dispatcher's queue, or to be delivered at once. -/
def notify (a : Audience ν) (value : ν) : Audience ν :=
  match a.dispatcher with
  | some _ => { a with queue := a.queue ++ [value], dispatching := some true }
  | none => { a with underWay := ⟨value, a.registered, []⟩ :: a.underWay }

/-- Ends the dispatcher once it has delivered what is queued; a later value starts another. -/
def close (a : Audience ν) : Audience ν :=
  { a with dispatching := a.dispatching.map fun _ => false }

/-- A callback hears a value, in a delivery that goes on to `waiting`. -/
def hear (a : Audience ν) (name : Text) (value : ν) (waiting : List Text)
    (outer : List (Delivery ν)) : Audience ν :=
  { a with
    underWay := ⟨value, waiting, (a.callback name).reactions a.heard value⟩ :: outer
    heard := a.heard ++ [(name, value)] }

/-- A callback does one thing about a value, with `d` the rest of the delivery. -/
def react (a : Audience ν) (d : Delivery ν) (outer : List (Delivery ν)) :
    Reaction ν → Audience ν
  | .add name => { a with underWay := d :: outer }.add name
  | .remove name => { a with underWay := d :: outer }.remove name
  | .notify value => { a with underWay := d :: outer }.notify value
  | .fail fault =>
    { a with
      underWay := { d with pending := [] } :: outer
      notices := a.notices ++ [.listenerFailed (a.typeName d.value) fault] }

/-- The next thing that happens, if anything is left to do. -/
def step (a : Audience ν) : Option (Audience ν) :=
  match a.underWay with
  | ⟨value, waiting, reaction :: pending⟩ :: outer =>
    some (a.react ⟨value, waiting, pending⟩ outer reaction)
  | ⟨value, name :: waiting, []⟩ :: outer => some (a.hear name value waiting outer)
  | ⟨_, [], []⟩ :: outer => some { a with underWay := outer }
  | [] =>
    match a.queue with
    | value :: queue => some { a with queue, underWay := [⟨value, a.registered, []⟩] }
    | [] => none

/-- Goes on for at most `fuel` steps. -/
def run : (fuel : Nat) → Audience ν → Audience ν
  | 0, a => a
  | fuel + 1, a =>
    match a.step with
    | some next => run fuel next
    | none => a

/-! ## Listeners that answer nothing -/

/-- Steps enough to deliver everything that is waiting to listeners who do nothing about a value but
perhaps fail: for each of them a turn and a failure, and for each delivery its beginning and end. -/
def outstanding (a : Audience ν) : Nat :=
  a.underWay.foldr (fun d steps => d.pending.length + 2 * d.waiting.length + 1 + steps) 0
    + a.queue.length * (2 * a.registered.length + 2)

/-- Delivers everything that is waiting to listeners who answer nothing. -/
def settle (a : Audience ν) : Audience ν :=
  a.run a.outstanding

/-- Hands over a value and, without a dispatcher, delivers it to listeners who answer nothing. -/
def tell (a : Audience ν) (value : ν) : Audience ν :=
  match a.dispatcher with
  | some _ => a.notify value
  | none => (a.notify value).settle

/-- Takes out the reported failures. -/
def takeNotices (a : Audience ν) : List Notice × Audience ν :=
  (a.notices, { a with notices := [] })

end Audience

end FlagReplica
