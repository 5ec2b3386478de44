import Overseer.Supervisor.System

namespace Overseer.Supervisor.System

open Overseer.Output

def take (system : System) (action : Action) : System :=
  match system.act action with
  | .moved next => next
  | .blocked | .broken _ => system

def takeAll (system : System) (actions : List Action) : System := actions.foldl take system

def pump (system : System) (run : Nat) (source : Source) : Nat → System
  | 0 => system
  | fuel + 1 =>
      match system.findReader run source with
      | none => system
      | some thread =>
          if thread.announcing then (system.take (.announce run)).pump run source fuel
          else if thread.stream.isEmpty then system
          else (system.take (.read run source)).pump run source fuel

def arrive (system : System) (run : Nat) (source : Source) (message : Message) : System :=
  let system := system.take (.send run source message)
  match system.findReader run source with
  | none => system
  | some thread => system.pump run source (thread.stream.weight + 2)

def close (system : System) (run : Nat) (sources : List Source) : System :=
  sources.foldl (fun system source => system.arrive run source .closed) system

def tearDown (system : System) : System :=
  (system.teardowns.map Teardown.run).foldl
    (fun system run => system.take (.teardown run)) system

def handOver (system : System) : System :=
  (List.range (system.queue.items.size - system.queue.taken)).foldl
    (fun system _ => (system.take .deliver).take .settle) system

end Overseer.Supervisor.System
