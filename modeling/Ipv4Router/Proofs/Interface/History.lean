/-
This file describes the registry as a map that keeps the order in which its names were first
added. After any additions, from the empty registry on, every name stands once and has the
interface that was last added under it. Each further addition replaces the one interface of its
name, in its place, or comes last. An address is the router's own as long as an interface that
has it was not replaced.
-/

import Ipv4Router.Interface.Registry
import Ipv4Router.Proofs.Keyed

namespace Ipv4Router

namespace Registry

/-! ### One addition -/

section Adding

variable (registry : Registry) (fresh : Interface)

/-- What an addition does to an ordered map. What is added under a new name comes last and replaces
nothing; under a known name it takes the place of what was there, which is returned. -/
inductive Turn : List Interface → Option Interface → Prop
  | appended (absent : fresh.name ∉ registry.names) :
    Turn (registry.interfaces ++ [fresh]) none
  | replaced (old : Interface) (earlier later : List Interface)
    (place : registry.interfaces = earlier ++ old :: later) (same : old.name = fresh.name) :
    Turn (earlier ++ fresh :: later) (some old)

/-- Every addition takes its turn on the ordered map. -/
theorem turn_add :
    Turn registry fresh (registry.add fresh).1.interfaces (registry.add fresh).2 := by
  show Turn registry fresh (Keyed.put Interface.name fresh registry.interfaces)
    (registry.get? fresh.name)
  cases found : registry.get? fresh.name with
  | none =>
    rw [Keyed.put_of_absent Interface.name fresh registry.interfaces found]
    exact .appended ((Keyed.find?_eq_none Interface.name _ registry.interfaces).mp found)
  | some old =>
    obtain ⟨same, earlier, later, place, others⟩ := Keyed.split_of_find? _ _ _ _ found
    rw [place, Keyed.put_append Interface.name fresh old earlier later same others]
    exact .replaced old earlier later place same

end Adding

/-! ### All additions -/

section History

variable (additions : List Interface)

theorem interfaces_ofList_eq_putAll :
    (ofList additions).interfaces = Keyed.putAll Interface.name additions :=
  (List.foldl_hom interfaces fun _ _ => rfl).symm

/-- Interfaces of different names are all kept, in their order. -/
theorem interfaces_ofList (different : (additions.map Interface.name).Nodup) :
    (ofList additions).interfaces = additions := by
  rw [interfaces_ofList_eq_putAll]
  exact Keyed.putAll_of_unique Interface.name additions different

theorem names_ofList : (ofList additions).names = (additions.map Interface.name).eraseDups := by
  rw [names, interfaces_ofList_eq_putAll, Keyed.map_putAll]

theorem get?_ofList_eq_some (name : String) (interface : Interface) :
    (ofList additions).get? name = some interface ↔
      interface.name = name ∧ Keyed.Last Interface.name additions interface := by
  rw [get?, interfaces_ofList_eq_putAll, Keyed.find?_putAll_eq_some]

theorem get?_ofList_eq_none (name : String) :
    (ofList additions).get? name = none ↔ ∀ interface ∈ additions, interface.name ≠ name := by
  rw [get?, interfaces_ofList_eq_putAll, Keyed.find?_putAll_eq_none, List.mem_map]
  exact ⟨fun absent interface member same => absent ⟨interface, member, same⟩,
    fun others ⟨interface, member, same⟩ => others interface member same⟩

theorem mem_ofList (interface : Interface) :
    interface ∈ (ofList additions).interfaces ↔ Keyed.Last Interface.name additions interface := by
  rw [interfaces_ofList_eq_putAll, Keyed.mem_putAll]

end History

/-! ### Own addresses -/

theorem isLocal_iff (registry : Registry) (address : Ipv4Address) :
    registry.isLocal address = true ↔
      ∃ interface ∈ registry.interfaces, interface.address = address := by
  simp only [isLocal, List.any_eq_true, beq_iff_eq]

/-- After an addition, the own addresses are the added one and those of interfaces of other
names. -/
theorem isLocal_add (registry : Registry) (fresh : Interface) (address : Ipv4Address) :
    (registry.add fresh).1.isLocal address = true ↔ fresh.address = address ∨
      ∃ other ∈ registry.interfaces, other.name ≠ fresh.name ∧ other.address = address := by
  rw [isLocal_iff]
  simp only [add, Keyed.mem_put_iff Interface.name fresh registry.interfaces registry.named]
  constructor
  · rintro ⟨interface, rfl | ⟨member, others⟩, same⟩
    · exact Or.inl same
    · exact Or.inr ⟨interface, member, others, same⟩
  · rintro (same | ⟨other, member, others, same⟩)
    · exact ⟨fresh, Or.inl rfl, same⟩
    · exact ⟨other, Or.inr ⟨member, others⟩, same⟩

/-- The registry after any additions is a map that keeps the order of its names. No name stands
twice, and the names stand in the order in which they were first added; under a name is what was
last added under it, and nothing where none was; any further addition takes its turn; and the own
addresses are those of the interfaces that were not replaced, so that a further addition takes away
the address of what it replaces, unless the address is also its own or another interface's. -/
theorem ofList_refines_ordered_map (additions : List Interface) :
    let registry := ofList additions
    registry.names.Nodup ∧
      registry.names = (additions.map Interface.name).eraseDups ∧
      (∀ name interface, registry.get? name = some interface ↔
        interface.name = name ∧ Keyed.Last Interface.name additions interface) ∧
      (∀ name, registry.get? name = none ↔ ∀ interface ∈ additions, interface.name ≠ name) ∧
      (∀ fresh, Turn registry fresh (registry.add fresh).1.interfaces (registry.add fresh).2) ∧
      (∀ interface, interface ∈ registry.interfaces ↔
        Keyed.Last Interface.name additions interface) ∧
      (∀ address, registry.isLocal address = true ↔
        ∃ interface ∈ registry.interfaces, interface.address = address) ∧
      ∀ fresh address, (registry.add fresh).1.isLocal address = true ↔
        fresh.address = address ∨
          ∃ other ∈ registry.interfaces, other.name ≠ fresh.name ∧ other.address = address :=
  ⟨(ofList additions).named, names_ofList additions, get?_ofList_eq_some additions,
    get?_ofList_eq_none additions, turn_add _, mem_ofList additions, isLocal_iff _, isLocal_add _⟩

end Registry

/-! ### The stations of the examples -/

namespace Stations

/-- The interface of a router on an inner subnet. -/
def inner : Interface :=
  ⟨"eth0", .ofParts 10 0 0 1, .ofParts 255 255 255 0, .ofOctets [2, 0, 0, 0, 0, 1]⟩

/-- The interface of the router on an outer subnet. -/
def outer : Interface :=
  ⟨"eth1", .ofParts 10 0 1 1, .ofParts 255 255 255 0, .ofOctets [2, 0, 0, 0, 0, 2]⟩

def registry : Registry := ⟨[inner, outer], by decide⟩

/-- Another router on the inner subnet. -/
def neighbor : Interface :=
  ⟨"eth0", .ofParts 10 0 0 2, .ofParts 255 255 255 0, .ofOctets [2, 0, 0, 0, 0, 9]⟩

/-- A host on the outer subnet. -/
def host : Interface :=
  ⟨"eth1", .ofParts 10 0 1 7, .ofParts 255 255 255 0, .ofOctets [2, 0, 0, 0, 0, 7]⟩

end Stations

end Ipv4Router
