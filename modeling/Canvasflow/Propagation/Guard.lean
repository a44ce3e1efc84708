/-!
# The cascade guard

The connectors that are running now, innermost last. A run starts only while fewer of them run than
the limit allows, so a cascade of writes cannot nest without end.
-/

namespace Canvasflow.Propagation

/-- The running connectors, and how many may run at a time. -/
structure Guard where
  limit : Int
  stack : List String
  deriving DecidableEq, Repr, Inhabited

/-- A cascade that is as deep as the limit allows. -/
structure DepthFault where
  limit : Int
  connector : String
  path : List String
  deriving DecidableEq, Repr

/-- What is said of a cascade that is too deep: the last three running connectors are named. -/
def DepthFault.message (fault : DepthFault) : String :=
  "Cascade depth " ++ toString fault.limit ++ " exceeded at " ++ fault.connector ++ " (path: " ++
    String.intercalate " -> " (fault.path.drop (fault.path.length - 3)) ++ " ...)"

namespace Guard

/-- Nothing is running. -/
def idle (limit : Int) : Guard :=
  ⟨limit, []⟩

/-- The number of running connectors. -/
def depth (guard : Guard) : Nat :=
  guard.stack.length

/-- Whether a connector is running. -/
def isRunning (guard : Guard) (connector : String) : Bool :=
  guard.stack.contains connector

/-- Let a connector run. -/
def enter (guard : Guard) (connector : String) : Except DepthFault Guard :=
  if guard.limit ≤ guard.depth then .error ⟨guard.limit, connector, guard.stack⟩
  else .ok { guard with stack := guard.stack ++ [connector] }

/-- End the run of a connector: its innermost run if that is the last one, else its first. -/
def exit (guard : Guard) (connector : String) : Guard :=
  if guard.stack.getLast? = some connector then { guard with stack := guard.stack.dropLast }
  else { guard with stack := guard.stack.erase connector }

/-- A run that has ended leaves no trace. -/
theorem exit_enter {guard entered : Guard} {connector : String}
    (h : guard.enter connector = .ok entered) : entered.exit connector = guard := by
  unfold enter at h
  split at h
  · cases h
  · cases h
    simp [exit]

end Guard

end Canvasflow.Propagation
