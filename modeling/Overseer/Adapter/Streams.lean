import Overseer.Event

namespace Overseer.Adapter

structure Streams where
  kept : List Source
deriving DecidableEq

namespace Streams

def both : Streams := ⟨[.stdout, .stderr]⟩

def take (streams : Streams) (source : Source) : Bool × Streams :=
  (streams.kept.contains source, ⟨streams.kept.filter (· ≠ source)⟩)

end Streams

end Overseer.Adapter
