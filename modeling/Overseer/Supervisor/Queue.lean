import Overseer.Event

namespace Overseer.Supervisor

-- The queue between a supervisor and its observer. Whoever has news puts it at
-- the end and goes on; one dispatcher hands over from the front, one item at a
-- time, until it comes to the mark that ends its work.

inductive Item
  | event (event : Event)
  | shutdown
deriving DecidableEq

structure Queue where
  items : Array Item
  taken : Nat
  busy : Bool
  ended : Bool
deriving DecidableEq

namespace Queue

def empty : Queue := ⟨#[], 0, false, false⟩

def put (queue : Queue) (item : Item) : Queue :=
  if queue.ended then queue else { queue with items := queue.items.push item }

def putAll (queue : Queue) (events : List Event) : Queue :=
  events.foldl (fun queue event => queue.put (.event event)) queue

-- Takes the next item, when the observer is not busy with the one before. An
-- observer that fails in its callback returns from it all the same.
def deliver (queue : Queue) : Option Queue :=
  if queue.busy || queue.ended then none
  else
    match queue.items[queue.taken]? with
    | none => none
    | some (.event _) => some { queue with taken := queue.taken + 1, busy := true }
    | some .shutdown => some { queue with taken := queue.taken + 1, ended := true }

def settle (queue : Queue) : Queue := { queue with busy := false }

def events (queue : Queue) : List Event :=
  queue.items.toList.filterMap fun item =>
    match item with
    | .event event => some event
    | .shutdown => none

def handed (queue : Queue) : List Event :=
  (queue.items.toList.take queue.taken).filterMap fun item =>
    match item with
    | .event event => some event
    | .shutdown => none

def current (queue : Queue) : Option Event :=
  if queue.busy then
    match queue.items[queue.taken - 1]? with
    | some (.event event) => some event
    | _ => none
  else none

end Queue

end Overseer.Supervisor
