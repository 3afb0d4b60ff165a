import ScopeProbe.Engine
import ScopeProbe.EngineFactory
import ScopeProbe.Room

/-!
# Hosts

What a process finds around it and cannot change: the modules that it can import engines from, and
the room on its stack of calls.
-/

namespace ScopeProbe

inductive EngineOrigin where
  | new (policy : EnginePolicy)
  | shared (name : String) (policy : EnginePolicy)

structure Host where
  installation : EngineFactory.Installation EngineOrigin
  room : Room

end ScopeProbe
