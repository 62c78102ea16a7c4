import VerbScript.World.Basic

/-!
# Stores

A store is a world together with the stream its new objects take their ids from.
-/

namespace VerbScript

/-- A world that can grow. The stream goes on with every object that is made, and no id is given
back. -/
structure Store where
  world : World := {}
  stream : IdStream
deriving Inhabited

namespace Store

/-- The empty world whose new ids follow a seed. -/
def ofSeed (seed : UInt64) : Store := { stream := { seed } }

/-- An id that is not in use, and the stream after it was drawn: numbers are drawn until one stands
for such an id. -/
def freshId (s : Store) : ObjectId × IdStream :=
  s.stream.next fun id => !s.world.contains id

/-- Makes an empty object with a fresh id at the given time. The parent need not exist, neither now
nor later. -/
def create (s : Store) (parent : Option ObjectId) (created : UInt64) : ObjectId × Store :=
  let fresh := s.freshId
  let o : Object := { id := fresh.1, parent, created }
  (fresh.1, { world := (s.world.insert o).1, stream := fresh.2 })

end Store

instance : Host Store where
  serve s request :=
    let (world, reply) := s.world.serve request
    ({ s with world }, reply)

end VerbScript
