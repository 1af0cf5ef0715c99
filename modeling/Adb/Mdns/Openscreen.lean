import Adb.Mdns.TransportMdns

/-!
# Endpoints of the Open Screen backend

`OnOpenScreenServiceReceiverResult` of `client/openscreen/mdns_service.cpp` converts the
endpoint that an Open Screen service watcher reports into a `ServiceInfo` and hands it to
`OnServiceReceiverResult`. The conversion keeps the last IPv4 address of the endpoint's list
and the set of its IPv6 addresses, so it depends on the order of the list only through the
IPv4 addresses: `endpointServiceInfo_eq_of_perm` shows it for reordered lists that end with
the same IPv4 address, and `endpointServiceInfo_order_dependent` gives two orders of two IPv4
addresses that build different records. The older conversion `DnsSdInstanceEndpointToServiceInfo`
of `client/openscreen/mdns_service_info.cpp` keeps the first address of each version instead,
in slots of type `openscreen::IPAddress` that `operator bool` reads as empty while they hold
the zero address, so a zero address in the endpoint's list fills no slot.
-/

namespace Adb.Mdns

open DiscoveredServices

/-- `openscreen::IPAddress`, by its version. -/
inductive IPAddress where
  | v4 (address : IPv4Address)
  | v6 (address : IPv6Address)
  deriving DecidableEq

/-- The IPv4 address of an address of version 4. -/
def IPAddress.toV4? : IPAddress → Option IPv4Address
  | .v4 address => some address
  | .v6 _ => none

/-- The IPv6 address of an address of version 6. -/
def IPAddress.toV6? : IPAddress → Option IPv6Address
  | .v4 _ => none
  | .v6 address => some address

/-- The fields of `discovery::DnsSdInstanceEndpoint` the conversion reads; `txt` is what
`txt().GetData()` returns. -/
structure DnsSdInstanceEndpoint where
  instanceId : String
  serviceId : String
  addresses : List IPAddress
  port : UInt16
  txt : List (List UInt8)

/-- `ServicesUpdatedState` of the service watcher. -/
inductive ServicesUpdatedState where
  | endpointCreated
  | endpointUpdated
  | endpointDeleted

/-- The switch of `OnOpenScreenServiceReceiverResult` from the watcher's state to the event
kind. -/
def ServicesUpdatedState.toServiceInfoState : ServicesUpdatedState → ServiceInfoState
  | .endpointCreated => .created
  | .endpointUpdated => .updated
  | .endpointDeleted => .deleted

/-- One turn of the loop over the endpoint's addresses: an IPv4 address replaces the one kept
so far, and an IPv6 address joins the set. -/
def collectAddress :
    Option IPv4Address × Finset IPv6Address → IPAddress → Option IPv4Address × Finset IPv6Address
  | (_, ipv6Addresses), .v4 address => (some address, ipv6Addresses)
  | (ipv4, ipv6Addresses), .v6 address => (ipv4, insert address ipv6Addresses)

/-- The conversion at the start of `OnOpenScreenServiceReceiverResult`. -/
def endpointServiceInfo (info : DnsSdInstanceEndpoint) : ServiceInfo :=
  let (ipv4, ipv6Addresses) := info.addresses.foldl collectAddress (none, ∅)
  ServiceInfo.ofTxt info.instanceId info.serviceId ipv4 ipv6Addresses info.port info.txt

variable (c : Collaborators)

/-- `OnOpenScreenServiceReceiverResult`: the list of all endpoints, its first argument, is not
read. -/
def onOpenScreenServiceReceiverResult (services : DiscoveredServices)
    (info : DnsSdInstanceEndpoint) (state : ServicesUpdatedState) :
    DiscoveredServices × List Action :=
  onServiceReceiverResult c services (endpointServiceInfo info) state.toServiceInfoState

/-! ## What the conversion keeps -/

/-- The last IPv4 address of a list of addresses. -/
def lastV4 (addresses : List IPAddress) : Option IPv4Address :=
  (addresses.filterMap IPAddress.toV4?).getLast?

theorem foldl_collectAddress (addresses : List IPAddress) :
    addresses.foldl collectAddress (none, ∅) =
      (lastV4 addresses, (addresses.filterMap IPAddress.toV6?).toFinset) := by
  induction addresses using List.reverseRecOn with
  | nil => rfl
  | append_singleton addresses address ih =>
      rw [List.foldl_append, ih]
      cases address <;>
        simp [collectAddress, lastV4, IPAddress.toV4?, IPAddress.toV6?, Finset.insert_eq,
          Finset.union_comm]

theorem endpointServiceInfo_eq (info : DnsSdInstanceEndpoint) :
    endpointServiceInfo info =
      ServiceInfo.ofTxt info.instanceId info.serviceId (lastV4 info.addresses)
        (info.addresses.filterMap IPAddress.toV6?).toFinset info.port info.txt := by
  simp [endpointServiceInfo, foldl_collectAddress]

/-- Two endpoints that agree on everything but the order of their addresses, and whose lists
end with the same IPv4 address, are converted to the same record; so an update for the second
right after an update for the first changes nothing, and the handler neither attempts a
connection nor refreshes the trackers. -/
theorem endpointServiceInfo_eq_of_perm {e e' : DnsSdInstanceEndpoint}
    (hinstance : e.instanceId = e'.instanceId) (hservice : e.serviceId = e'.serviceId)
    (hport : e.port = e'.port) (htxt : e.txt = e'.txt) (hperm : e.addresses.Perm e'.addresses)
    (hv4 : lastV4 e.addresses = lastV4 e'.addresses) :
    endpointServiceInfo e = endpointServiceInfo e' ∧
    ∀ services : DiscoveredServices,
      let after := (onOpenScreenServiceReceiverResult c services e .endpointUpdated).1
      (serviceUpdated after (endpointServiceInfo e')).2 = false ∧
        onOpenScreenServiceReceiverResult c after e' .endpointUpdated = (after, []) := by
  have heq : endpointServiceInfo e = endpointServiceInfo e' := by
    rw [endpointServiceInfo_eq, endpointServiceInfo_eq, hinstance, hservice, hport, htxt, hv4,
      List.toFinset_eq_of_perm _ _ (hperm.filterMap _)]
  refine ⟨heq, fun services => ?_⟩
  obtain ⟨hfalse, -, hrepeat⟩ :=
    onServiceReceiverResult_repeat c services (endpointServiceInfo e)
      (show ServiceInfoState.updated ≠ .deleted from nofun)
  simp only [onOpenScreenServiceReceiverResult, ServicesUpdatedState.toServiceInfoState, ← heq]
  exact ⟨hfalse, hrepeat⟩

/-- The loopback addresses of the registry tests, advertised in the two orders. -/
theorem endpointServiceInfo_eq_of_perm_loopback :
    let c : Collaborators := ⟨fun _ _ => true, fun _ => some 0, 0, "", "", fun _ => true⟩
    let v4 : IPAddress := .v4 ⟨⟨[127, 0, 0, 1], rfl⟩⟩
    let v6 : IPAddress := .v6 ⟨⟨[0, 0, 0, 0, 0, 0, 0, 0, 0, 0, 0, 0, 0, 0, 0, 1], rfl⟩⟩
    let e : DnsSdInstanceEndpoint := ⟨"foo", "bar", [v4, v6], 5555, []⟩
    let e' : DnsSdInstanceEndpoint := ⟨"foo", "bar", [v6, v4], 5555, []⟩
    e.addresses.Perm e'.addresses ∧ lastV4 e.addresses = lastV4 e'.addresses ∧
    endpointServiceInfo e = endpointServiceInfo e' ∧
    ∀ services : DiscoveredServices,
      let after := (onOpenScreenServiceReceiverResult c services e .endpointUpdated).1
      (serviceUpdated after (endpointServiceInfo e')).2 = false ∧
        onOpenScreenServiceReceiverResult c after e' .endpointUpdated = (after, []) :=
  ⟨List.Perm.swap _ _ _, rfl,
    endpointServiceInfo_eq_of_perm _ rfl rfl rfl rfl (List.Perm.swap _ _ _) rfl⟩

/-- Two IPv4 addresses advertised in the two orders give records with different IPv4
addresses: the conversion keeps the last one. -/
theorem endpointServiceInfo_order_dependent :
    ¬∀ e e' : DnsSdInstanceEndpoint, e.instanceId = e'.instanceId →
      e.serviceId = e'.serviceId → e.port = e'.port → e.txt = e'.txt →
      e.addresses.Perm e'.addresses → endpointServiceInfo e = endpointServiceInfo e' := by
  intro h
  let first : IPAddress := .v4 ⟨⟨[127, 0, 0, 1], rfl⟩⟩
  let second : IPAddress := .v4 ⟨⟨[192, 168, 0, 1], rfl⟩⟩
  have hsame := h ⟨"foo", "bar", [first, second], 5555, []⟩
    ⟨"foo", "bar", [second, first], 5555, []⟩
    rfl rfl rfl rfl (List.Perm.swap _ _ _)
  exact absurd hsame (by decide)

/-! ## The older conversion of `mdns_service_info.cpp` -/

/-- `IPAddress::IsV4`. -/
def IPAddress.isV4 : IPAddress → Bool
  | .v4 _ => true
  | .v6 _ => false

/-- `IPAddress::IsV6`. -/
def IPAddress.isV6 : IPAddress → Bool
  | .v4 _ => false
  | .v6 _ => true

/-- `explicit operator bool` of `openscreen::IPAddress`: some byte of the address is not
zero. -/
def IPAddress.isNonzero : IPAddress → Bool
  | .v4 address => address.bytes.toList.any (· != 0)
  | .v6 address => address.bytes.toList.any (· != 0)

/-- A default-constructed `openscreen::IPAddress`: the IPv4 address of four zero bytes. -/
def IPAddress.unset : IPAddress := .v4 ⟨Mathlib.Vector.replicate 4 0⟩

/-- An address as `operator bool` reads it: a zero address counts as no address. -/
def IPAddress.nonzero? (address : IPAddress) : Option IPAddress :=
  if address.isNonzero then some address else none

/-- The first address of a version that is not a zero address. -/
def firstNonzero (isVersion : IPAddress → Bool) (addresses : List IPAddress) :
    Option IPAddress :=
  addresses.find? fun address => isVersion address && address.isNonzero

/-- `mdns::ServiceInfo` of `client/openscreen/mdns_service_info.h`, by the fields the conversion
writes: the port and one `openscreen::IPAddress` of each version, empty while `operator bool`
finds it zero. -/
structure OpenscreenServiceInfo where
  v4Address : IPAddress
  v6Address : IPAddress
  port : UInt16
  deriving DecidableEq

/-- One turn of the loop of `DnsSdInstanceEndpointToServiceInfo`: an address fills the slot of
its version if that slot is still empty. -/
def keepFirstAddress (info : OpenscreenServiceInfo) (address : IPAddress) :
    OpenscreenServiceInfo :=
  if !info.v4Address.isNonzero && address.isV4 then { info with v4Address := address }
  else if !info.v6Address.isNonzero && address.isV6 then { info with v6Address := address }
  else info

/-- `mdns::DnsSdInstanceEndpointToServiceInfo` of `mdns_service_info.cpp`: the port, and the
slots filled by the loop over the endpoint's addresses. Its `CHECK` that some slot is filled
aborts; that is no result here. -/
def dnsSdInstanceEndpointToServiceInfo (endpoint : DnsSdInstanceEndpoint) :
    Option OpenscreenServiceInfo :=
  let info := endpoint.addresses.foldl keepFirstAddress ⟨.unset, .unset, endpoint.port⟩
  if info.v4Address.isNonzero || info.v6Address.isNonzero then some info else none

@[simp]
theorem unset_nonzero? : IPAddress.unset.nonzero? = none := rfl

@[simp]
theorem isSome_nonzero? (address : IPAddress) : address.nonzero?.isSome = address.isNonzero := by
  unfold IPAddress.nonzero?
  split <;> simp_all

theorem firstNonzero_cons (isVersion : IPAddress → Bool) (address : IPAddress)
    (addresses : List IPAddress) :
    firstNonzero isVersion (address :: addresses) =
      (firstNonzero isVersion [address]).or (firstNonzero isVersion addresses) := by
  simp only [firstNonzero, List.find?_cons, List.find?_nil]
  split <;> rfl

/-- An endpoint has an address of either version other than zero exactly when it has a
non-zero address. -/
theorem firstNonzero_isSome (addresses : List IPAddress) :
    ((firstNonzero IPAddress.isV4 addresses).isSome ||
        (firstNonzero IPAddress.isV6 addresses).isSome) = addresses.any IPAddress.isNonzero := by
  induction addresses with
  | nil => rfl
  | cons address addresses ih =>
      rw [firstNonzero_cons _ address addresses, firstNonzero_cons _ address addresses,
        List.any_cons, ← ih]
      cases h : address.isNonzero <;> cases address <;>
        simp [firstNonzero, IPAddress.isV4, IPAddress.isV6, h]

/-- One turn of the loop fills the slot of the address's version exactly when that slot reads
as empty and the address as non-zero. -/
theorem keepFirstAddress_nonzero? (info : OpenscreenServiceInfo) (address : IPAddress) :
    (keepFirstAddress info address).v4Address.nonzero? =
        info.v4Address.nonzero?.or (firstNonzero IPAddress.isV4 [address]) ∧
      (keepFirstAddress info address).v6Address.nonzero? =
        info.v6Address.nonzero?.or (firstNonzero IPAddress.isV6 [address]) ∧
      (keepFirstAddress info address).port = info.port := by
  unfold keepFirstAddress IPAddress.nonzero?
  cases address <;> cases h4 : info.v4Address.isNonzero <;>
    cases h6 : info.v6Address.isNonzero <;>
    simp [firstNonzero, IPAddress.isV4, IPAddress.isV6, h4, h6]

/-- After the loop, each slot holds the first non-zero address of its version, unless it held
a non-zero address before. -/
theorem foldl_keepFirstAddress (addresses : List IPAddress) (info : OpenscreenServiceInfo) :
    (addresses.foldl keepFirstAddress info).v4Address.nonzero? =
        info.v4Address.nonzero?.or (firstNonzero IPAddress.isV4 addresses) ∧
      (addresses.foldl keepFirstAddress info).v6Address.nonzero? =
        info.v6Address.nonzero?.or (firstNonzero IPAddress.isV6 addresses) ∧
      (addresses.foldl keepFirstAddress info).port = info.port := by
  induction addresses generalizing info with
  | nil => simp [firstNonzero]
  | cons address addresses ih =>
      obtain ⟨h4, h6, hport⟩ := keepFirstAddress_nonzero? info address
      obtain ⟨ih4, ih6, ihport⟩ := ih (keepFirstAddress info address)
      rw [List.foldl_cons, ih4, ih6, ihport, h4, h6, hport, firstNonzero_cons _ address addresses,
        firstNonzero_cons _ address addresses, Option.or_assoc, Option.or_assoc]
      exact ⟨rfl, rfl, rfl⟩

/-- The older conversion keeps, in the slot of each version, the first address of that version
that is not the zero address, as `operator bool` reads the slots, and its `CHECK` fails exactly
when every address of the endpoint is zero; the handler's conversion keeps the last IPv4
address and every IPv6 address instead. -/
theorem dnsSdInstanceEndpointToServiceInfo_eq (endpoint : DnsSdInstanceEndpoint) :
    (dnsSdInstanceEndpointToServiceInfo endpoint).map
        (fun info => (info.v4Address.nonzero?, info.v6Address.nonzero?, info.port)) =
      (if endpoint.addresses.any IPAddress.isNonzero then
        some (firstNonzero IPAddress.isV4 endpoint.addresses,
          firstNonzero IPAddress.isV6 endpoint.addresses, endpoint.port)
      else none) ∧
    endpointServiceInfo endpoint =
      ServiceInfo.ofTxt endpoint.instanceId endpoint.serviceId (lastV4 endpoint.addresses)
        (endpoint.addresses.filterMap IPAddress.toV6?).toFinset endpoint.port endpoint.txt := by
  refine ⟨?_, endpointServiceInfo_eq endpoint⟩
  obtain ⟨h4, h6, hport⟩ :=
    foldl_keepFirstAddress endpoint.addresses ⟨.unset, .unset, endpoint.port⟩
  simp only [unset_nonzero?, Option.none_or] at h4 h6
  have hcheck := firstNonzero_isSome endpoint.addresses
  rw [← h4, ← h6, isSome_nonzero?, isSome_nonzero?] at hcheck
  rw [dnsSdInstanceEndpointToServiceInfo, ← hcheck]
  split <;> simp [h4, h6, hport]

/-- Of two IPv4 addresses, the older conversion keeps the first and the handler's the last; a
zero address fills no slot, and an endpoint with only zero addresses fails the `CHECK`. -/
example :
    let zero : IPAddress := .v4 ⟨⟨[0, 0, 0, 0], rfl⟩⟩
    let first : IPAddress := .v4 ⟨⟨[127, 0, 0, 1], rfl⟩⟩
    let e : DnsSdInstanceEndpoint :=
      ⟨"foo", "bar", [zero, first, .v4 ⟨⟨[192, 168, 0, 1], rfl⟩⟩], 5555, []⟩
    (dnsSdInstanceEndpointToServiceInfo e).map (·.v4Address) = some first ∧
      (endpointServiceInfo e).v4Address = some ⟨⟨[192, 168, 0, 1], rfl⟩⟩ ∧
      dnsSdInstanceEndpointToServiceInfo ⟨"foo", "bar", [zero], 5555, []⟩ = none := by
  decide

end Adb.Mdns
