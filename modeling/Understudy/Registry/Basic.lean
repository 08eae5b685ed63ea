import Understudy.Mapping.Basic

/-!
# The registry

A `Registry` keeps mappings in the order in which they were first registered, one for each GUID.
-/

namespace Understudy

structure Registry where
  mappings : List Mapping

namespace Registry

def empty : Registry := ⟨[]⟩

instance : Inhabited Registry := ⟨empty⟩

def size (r : Registry) : Nat := r.mappings.length

def get? (r : Registry) (guid : Guid) : Option Mapping := r.mappings.find? (·.guid == guid)

/-- Puts a mapping in the place of the one with its GUID, or at the end. -/
def put (m : Mapping) : List Mapping → List Mapping
  | [] => [m]
  | n :: ns => if n.guid == m.guid then m :: ns else n :: put m ns

/-- Registers a mapping; it counts as updated now. -/
def register (r : Registry) (m : Mapping) (now : Instant) : Registry :=
  ⟨put { m with updatedAt := now } r.mappings⟩

def registerAll (r : Registry) (ms : List Mapping) (now : Instant) : Registry :=
  ms.foldl (fun r m => r.register m now) r

def unregister (r : Registry) (guid : Guid) : Except Error (Mapping × Registry) :=
  match r.get? guid with
  | some m => pure (m, ⟨r.mappings.filter (·.guid != guid)⟩)
  | none => throw (.notFound guid)

/-- Removes all mappings that are not permanent; says how many. -/
def reset (r : Registry) : Nat × Registry :=
  let kept := r.mappings.filter (·.isPermanent)
  (r.mappings.length - kept.length, ⟨kept⟩)

end Registry

end Understudy
