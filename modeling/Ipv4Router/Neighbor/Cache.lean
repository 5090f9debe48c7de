/-
This file defines the neighbour cache: the link addresses of the stations that the
router talks to, and the requests for those that are not known yet. Frames for an
unknown station wait in its request, in the order in which they came, until an
answer releases them or the sweep gives the request up. Bindings are forgotten when
they grow old.
-/

import Ipv4Router.Address.Ipv4
import Ipv4Router.Address.Mac
import Ipv4Router.Keyed

namespace Ipv4Router.Neighbor

/-- How requests are repeated and bindings forgotten; times are in milliseconds. -/
structure Settings where
  retryInterval : Nat := 1000
  maxRequests : Nat := 5
  bindingTimeout : Nat := 15000
deriving DecidableEq

/-- A known link address. -/
structure Binding where
  address : Ipv4Address
  mac : MacAddress
  learnedAt : Nat
deriving DecidableEq

/-- An address that was asked for, and the frames that wait for the answer. -/
structure Request where
  target : Ipv4Address
  interface : String
  sentAt : Nat
  sent : Nat
  waiting : List Octets
deriving DecidableEq

/-- What the router knows of its neighbours. -/
structure Cache where
  bindings : List Binding
  requests : List Request
  bound : Keyed.Unique Binding.address bindings
  single : Keyed.Unique Request.target requests
deriving DecidableEq

/-- What a sweep decided. -/
structure Sweep where
  forgotten : Nat
  repeated : List (Ipv4Address × String)
  abandoned : List Request
deriving DecidableEq

namespace Binding

/-- The binding has reached the age at which it is forgotten. -/
def isOld (binding : Binding) (settings : Settings) (now : Nat) : Bool :=
  settings.bindingTimeout ≤ now - binding.learnedAt

end Binding

namespace Request

/-- No answer came within the interval. -/
def isDue (request : Request) (settings : Settings) (now : Nat) : Bool :=
  settings.retryInterval ≤ now - request.sentAt

/-- All requests that may be sent were sent. -/
def isSpent (request : Request) (settings : Settings) : Bool :=
  settings.maxRequests ≤ request.sent

/-- The request is given up by a sweep. -/
def isAbandoned (request : Request) (settings : Settings) (now : Nat) : Bool :=
  request.isDue settings now && request.isSpent settings

/-- The request is sent again by a sweep. -/
def isRepeated (request : Request) (settings : Settings) (now : Nat) : Bool :=
  request.isDue settings now && !request.isSpent settings

/-- The request after a sweep that does not give it up. -/
def swept (request : Request) (settings : Settings) (now : Nat) : Request :=
  if request.isRepeated settings now then { request with sentAt := now, sent := request.sent + 1 }
  else request

/-- A sweep does not change which address a request is for. -/
theorem target_swept (settings : Settings) (now : Nat) (request : Request) :
    (request.swept settings now).target = request.target := by
  unfold swept
  split <;> rfl

end Request

namespace Cache

def empty : Cache := ⟨[], [], List.nodup_nil, List.nodup_nil⟩

/-! ### Reading -/

/-- The link address of a station. -/
def lookup? (cache : Cache) (address : Ipv4Address) : Option MacAddress :=
  (Keyed.find? Binding.address address cache.bindings).map Binding.mac

/-- The request for an address. -/
def request? (cache : Cache) (address : Ipv4Address) : Option Request :=
  Keyed.find? Request.target address cache.requests

/-! ### Changing -/

/-- Records a link address. The request for it, if there is one, leaves the cache and is handed
out with its frames. -/
def learn (cache : Cache) (address : Ipv4Address) (mac : MacAddress) (now : Nat) :
    Cache × Option Request :=
  ({ bindings := Keyed.put Binding.address ⟨address, mac, now⟩ cache.bindings
     requests := Keyed.erase Request.target address cache.requests
     bound := Keyed.unique_put _ _ cache.bound _
     single := Keyed.unique_erase _ _ cache.single address },
    cache.request? address)

/-- Starts a request, unless there is one already; tells whether it did. -/
def startRequest (cache : Cache) (address : Ipv4Address) (interface : String) (now : Nat) :
    Cache × Bool :=
  match cache.request? address with
  | some _ => (cache, false)
  | none =>
    ({ cache with
      requests := Keyed.put Request.target ⟨address, interface, now, 1, []⟩ cache.requests
      single := Keyed.unique_put _ _ cache.single _ }, true)

/-- Lets a frame wait in the request for an address; none if there is no such request. -/
def enqueue? (cache : Cache) (address : Ipv4Address) (frame : Octets) : Option Cache :=
  match cache.request? address with
  | some _ =>
    some { cache with
      requests := Keyed.adjust Request.target address
        (fun request => { request with waiting := request.waiting ++ [frame] }) cache.requests
      single := Keyed.unique_adjust _ _ cache.single address _ fun _ => rfl }
  | none => none

/-- Forgets old bindings, repeats the requests that are due and gives up those that were
repeated often enough. -/
def sweep (cache : Cache) (settings : Settings) (now : Nat) : Cache × Sweep :=
  ({ bindings := cache.bindings.filter fun binding => !binding.isOld settings now
     requests := (cache.requests.filter fun request => !request.isAbandoned settings now).map
        fun request => request.swept settings now
     bound := Keyed.unique_filter _ _ cache.bound _
     single := Keyed.unique_map _ _ (Keyed.unique_filter _ _ cache.single _) _
        (Request.target_swept settings now) },
   { forgotten := cache.bindings.countP fun binding => binding.isOld settings now
     repeated := (cache.requests.filter fun request => request.isRepeated settings now).map
        fun request => (request.target, request.interface)
     abandoned := cache.requests.filter fun request => request.isAbandoned settings now })

end Cache

end Ipv4Router.Neighbor
