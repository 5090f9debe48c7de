/-
This file defines the set of the router's interfaces. They are unique by name and
kept in the order in which their names were first added; adding an interface under
a known name replaces the old one in its place.
-/

import Ipv4Router.Interface.Basic
import Ipv4Router.Keyed

namespace Ipv4Router

/-- The router's interfaces. -/
structure Registry where
  interfaces : List Interface
  named : Keyed.Unique Interface.name interfaces
deriving DecidableEq

namespace Registry

def empty : Registry := ⟨[], List.nodup_nil⟩

/-- The interface of a name. -/
def get? (registry : Registry) (name : String) : Option Interface :=
  Keyed.find? Interface.name name registry.interfaces

/-- Adds an interface, and tells which one it replaced. -/
def add (registry : Registry) (interface : Interface) : Registry × Option Interface :=
  (⟨Keyed.put Interface.name interface registry.interfaces,
      Keyed.unique_put _ _ registry.named interface⟩,
    registry.get? interface.name)

/-- The registry to which the interfaces of a list were added one after the other. -/
def ofList (interfaces : List Interface) : Registry :=
  interfaces.foldl (fun registry interface => (registry.add interface).1) empty

/-- The address is one of the router's own. -/
def isLocal (registry : Registry) (address : Ipv4Address) : Bool :=
  registry.interfaces.any fun interface => interface.address == address

/-- The names of the interfaces. -/
def names (registry : Registry) : List String := registry.interfaces.map Interface.name

def size (registry : Registry) : Nat := registry.interfaces.length

end Registry

end Ipv4Router
