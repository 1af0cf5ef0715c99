import Adb.Mdns.Registry

/-!
# The event handler and auto-connect

`OnServiceReceiverResult` of `client/transport_mdns.cpp`, the single entry point through which
a discovery backend reports events. It applies the event to the registry, decides whether to
connect to the device, and refreshes the trackers. A connection attempt runs on a detached
thread and never touches the registry, so the handler is modelled as returning the new
registry together with the list of actions it hands off.

The answers of the collaborators (`adb_mdns.h` and the known-hosts store of `adb_wifi.h`) are
fields of `Collaborators`, so every theorem holds for every answer they may give.
`onServiceReceiverResult_dispatch` says exactly when an event leads to a connection attempt
and to a tracker refresh, and `duplicate_update_ignored` that a repeated advertisement leads to
neither.
-/

namespace Adb.Mdns

open DiscoveredServices

/-- The declarations of `adb_mdns.h` and `adb_wifi.h` that the handler uses, whose definitions
are outside the sources: the auto-connect policy, the index of a service type in the table
of adb's services, the index of the secure-connect service in that table, the names of the
TLS and pairing services, and the known-hosts store. -/
structure Collaborators where
  adbDNSServiceShouldAutoConnect : String → String → Bool
  adbDNSServiceIndexByName : String → Option Int
  kADBSecureConnectServiceRefIndex : Int
  adbServiceTls : String
  adbServicePair : String
  isKnownHost : String → Bool

/-- What the handler hands off: a detached thread that runs `connect_device` on an address, or
a call of `update_mdns_trackers`. -/
inductive Action where
  | connectDevice (address : String)
  | updateMdnsTrackers
  deriving DecidableEq, Repr

/-- The addresses of the connection attempts among some actions. -/
def connectTargets (actions : List Action) : List String :=
  actions.filterMap fun
    | .connectDevice address => some address
    | .updateMdnsTrackers => none

variable (c : Collaborators)

/-- `RequestConnectToDevice`: a thread that connects to `instance.service`. -/
def requestConnectToDevice (info : ServiceInfo) : List Action :=
  [.connectDevice (info.«instance» ++ "." ++ info.service)]

/-- `AttemptAutoConnect`: request a connection when the policy allows it, an IPv4 address is
known and the service type has an index, unless it is the secure-connect service and the
instance is not a known host. -/
def attemptAutoConnect (info : ServiceInfo) : List Action :=
  if !c.adbDNSServiceShouldAutoConnect info.service info.«instance» then []
  else if !info.v4Address.isSome then []
  else
    match c.adbDNSServiceIndexByName info.service with
    | none => []
    | some index =>
        if index = c.kADBSecureConnectServiceRefIndex && !c.isKnownHost info.«instance» then []
        else requestConnectToDevice info

/-- `ConnectAdbSecureDevice`: connect to a known host only; the flag says whether it was one. -/
def connectAdbSecureDevice (info : ServiceInfo) : Bool × List Action :=
  if !c.isKnownHost info.«instance» then (false, []) else (true, requestConnectToDevice info)

/-- `OnServiceReceiverResult`: apply the event to the registry, attempt an auto-connect for a
creation or for an update that changed the registry, and refresh the trackers unless an
update changed nothing. -/
def onServiceReceiverResult (services : DiscoveredServices) (info : ServiceInfo)
    (state : ServiceInfoState) : DiscoveredServices × List Action :=
  let (services, updated, attempts) : DiscoveredServices × Bool × List Action :=
    match state with
    | .created => (serviceCreated services info, true, attemptAutoConnect c info)
    | .updated =>
        let (services, updated) := serviceUpdated services info
        (services, updated, if updated then attemptAutoConnect c info else [])
    | .deleted => (serviceDeleted services info, true, [])
  (services, attempts ++ if updated then [.updateMdnsTrackers] else [])

/-- `adb_secure_connect_by_service_name`: connect to the TLS service of an instance, if the
registry knows it and the instance is a known host. -/
def adbSecureConnectByServiceName (services : DiscoveredServices) (instanceName : String) :
    Bool × List Action :=
  match findInstance services c.adbServiceTls instanceName with
  | some info => connectAdbSecureDevice c info
  | none => (false, [])

/-- `init_mdns_transport_discovery`: whether discovery starts, given the environment variable
`ADB_MDNS_OPENSCREEN`; only the value `"0"` turns it off. -/
def initMdnsTransportDiscovery (adbMdnsOpenscreen : Option String) : Bool :=
  adbMdnsOpenscreen != some "0"

/-- `mdns_check`: the status line, given whether Open Screen discovery has started. -/
def mdnsCheck (openScreenStarted : Bool) : String :=
  if !openScreenStarted then "ERROR: mdns discovery disabled"
  else "mdns daemon version [Openscreen discovery 0.0.0]"

/-- The result of `mdns_parse_instance_name`. -/
structure MdnsInstance where
  instanceName : String
  serviceName : String
  transportType : String
  deriving DecidableEq

/-- `mdns_get_connect_service_info`, with `mdns_parse_instance_name` of `client/mdns_utils.h`,
whose body is outside the sources, as the argument `parse`. The record is looked up under the
parsed instance and the service `serviceName.transportType`. The `CHECK` that the name is not
empty is left to the callers. -/
def mdnsGetConnectServiceInfo (parse : String → Option MdnsInstance)
    (services : DiscoveredServices) (name : String) : Option ServiceInfo :=
  match parse name with
  | none => none
  | some mdnsInstance =>
      findInstance services (mdnsInstance.serviceName ++ "." ++ mdnsInstance.transportType)
        mdnsInstance.instanceName

/-- `mdns_get_pairing_service_info`: as `mdns_get_connect_service_info`, but the record is
looked up under the pairing service. -/
def mdnsGetPairingServiceInfo (parse : String → Option MdnsInstance)
    (services : DiscoveredServices) (name : String) : Option ServiceInfo :=
  match parse name with
  | none => none
  | some mdnsInstance => findInstance services c.adbServicePair mdnsInstance.instanceName

/-- `mdns_list_discovered_services`: one line `instance\tservice\tipv4:port` per record. The
result is their concatenation in the unspecified order of the map. -/
def mdnsListDiscoveredServices (services : DiscoveredServices) : Multiset String :=
  (forAllServices services).map fun si =>
    si.«instance» ++ "\t" ++ si.service ++ "\t" ++ si.v4AddressString ++ ":" ++
      toString si.port ++ "\n"

/-! ## Auto-connect -/

/-- The conditions under which `AttemptAutoConnect` requests a connection. -/
def AutoConnectAllowed (info : ServiceInfo) : Prop :=
  c.adbDNSServiceShouldAutoConnect info.service info.«instance» = true ∧
    info.v4Address.isSome = true ∧
    ∃ index, c.adbDNSServiceIndexByName info.service = some index ∧
      (index = c.kADBSecureConnectServiceRefIndex → c.isKnownHost info.«instance» = true)

/-- `AttemptAutoConnect` requests exactly one connection, to `instance.service`, when the
conditions hold, and nothing otherwise. -/
theorem attemptAutoConnect_cases (info : ServiceInfo) :
    (AutoConnectAllowed c info ∧ attemptAutoConnect c info = requestConnectToDevice info) ∨
      (¬AutoConnectAllowed c info ∧ attemptAutoConnect c info = []) := by
  unfold attemptAutoConnect AutoConnectAllowed
  cases hs : c.adbDNSServiceShouldAutoConnect info.service info.«instance» <;>
    cases hv : info.v4Address.isSome <;>
    cases hi : c.adbDNSServiceIndexByName info.service <;> simp [hs, hv, hi]
  rename_i index
  by_cases hk : index = c.kADBSecureConnectServiceRefIndex <;>
    cases hh : c.isKnownHost info.«instance» <;> simp [hk, hh]

/-! ## The handler -/

theorem onServiceReceiverResult_fst (services : DiscoveredServices) (info : ServiceInfo)
    (state : ServiceInfoState) :
    (onServiceReceiverResult c services info state).1 = applyEvent services (state, info) := by
  cases state <;> rfl

/-- The actions of one event: the auto-connect attempt of a creation or of an update that
changed the registry, then the tracker refresh unless an update changed nothing. -/
theorem onServiceReceiverResult_snd (services : DiscoveredServices) (info : ServiceInfo)
    (state : ServiceInfoState) :
    (onServiceReceiverResult c services info state).2 =
      (if state = .created ∨ state = .updated ∧ (serviceUpdated services info).2 = true then
        attemptAutoConnect c info else []) ++
      (if state = .updated ∧ (serviceUpdated services info).2 = false then []
        else [.updateMdnsTrackers]) := by
  cases state <;> cases h : (serviceUpdated services info).2 <;> simp [onServiceReceiverResult, h]

/-- An event leads to exactly one connection attempt, to `instance.service`, when it is a
creation or an update that changed the registry and `AttemptAutoConnect`'s conditions hold,
and to none otherwise. It refreshes the trackers once, unless it is an update that changed
nothing. -/
theorem onServiceReceiverResult_dispatch (services : DiscoveredServices) (info : ServiceInfo)
    (state : ServiceInfoState) :
    let actions := (onServiceReceiverResult c services info state).2
    let attempts : Prop :=
      (state = .created ∨ state = .updated ∧ (serviceUpdated services info).2 = true) ∧
        AutoConnectAllowed c info
    (attempts → connectTargets actions = [info.«instance» ++ "." ++ info.service]) ∧
    (¬attempts → connectTargets actions = []) ∧
    actions.count .updateMdnsTrackers =
      if state = .updated ∧ (serviceUpdated services info).2 = false then 0 else 1 := by
  simp only [onServiceReceiverResult_snd]
  rcases attemptAutoConnect_cases c info with ⟨hA, hE⟩ | ⟨hA, hE⟩ <;>
    by_cases hs : state = .created ∨ state = .updated ∧ (serviceUpdated services info).2 = true <;>
    simp [requestConnectToDevice, connectTargets, hA, hE, hs,
      apply_ite (List.count Action.updateMdnsTrackers)]

/-- After a creation or an update, the registry holds under the key of the record one that
absorbs it. -/
theorem absorbs_applyEvent (services : DiscoveredServices) (info : ServiceInfo)
    {state : ServiceInfoState} (h : state ≠ .deleted) :
    ∃ stored, (applyEvent services (state, info)).lookup (fqName info) = some stored ∧
      Absorbs stored info := by
  rw [lookup_applyEvent, if_pos rfl]
  cases state with
  | created => exact ⟨info, rfl, absorbs_self info⟩
  | updated =>
      cases services.lookup (fqName info) with
      | none => exact ⟨info, rfl, absorbs_self info⟩
      | some current => exact ⟨_, rfl, absorbs_mergeService info current⟩
  | deleted => exact absurd rfl h

/-- An update that repeats the record of an event other than a deletion changes nothing. -/
theorem onServiceReceiverResult_repeat (services : DiscoveredServices) (info : ServiceInfo)
    {state : ServiceInfoState} (h : state ≠ .deleted) :
    let after := (onServiceReceiverResult c services info state).1
    (serviceUpdated after info).2 = false ∧ (serviceUpdated after info).1 = after ∧
      onServiceReceiverResult c after info .updated = (after, []) := by
  intro after
  obtain ⟨stored, hs, ha⟩ := absorbs_applyEvent services info h
  rw [← onServiceReceiverResult_fst c] at hs
  have hfalse : (serviceUpdated after info).2 = false :=
    (serviceUpdated_eq_false_iff _ _).2 ⟨stored, hs, ha⟩
  have hsame : (serviceUpdated after info).1 = after :=
    (serviceUpdated_fst_eq_self_iff _ _).2 hfalse
  have hpair : serviceUpdated after info = (after, false) := Prod.ext hsame hfalse
  exact ⟨hfalse, hsame, by simp [onServiceReceiverResult, hpair]⟩

/-- An update that repeats the record of the creation or update just before it changes
nothing: `ServiceUpdated` reports no update and leaves the registry as it was, and the handler
neither attempts a connection nor refreshes the trackers. -/
theorem duplicate_update_ignored (services : DiscoveredServices) (info : ServiceInfo)
    (first : ServiceInfoState) (hfirst : first = .created ∨ first = .updated) :
    let after := (onServiceReceiverResult c services info first).1
    (serviceUpdated after info).2 = false ∧ (serviceUpdated after info).1 = after ∧
      onServiceReceiverResult c after info .updated = (after, []) :=
  onServiceReceiverResult_repeat c services info (by rcases hfirst with rfl | rfl <;> nofun)

/-- The record of the registry tests, created and then advertised again, with collaborators
that allow every connection. -/
theorem duplicate_update_ignored_foo_bar :
    let c : Collaborators := ⟨fun _ _ => true, fun _ => some 0, 0, "", "", fun _ => true⟩
    let info : ServiceInfo := ⟨"foo", "bar", none, ∅, 0, ∅⟩
    (ServiceInfoState.created = .created ∨ ServiceInfoState.created = .updated) ∧
    let after := (onServiceReceiverResult c ∅ info .created).1
    (serviceUpdated after info).2 = false ∧ (serviceUpdated after info).1 = after ∧
      onServiceReceiverResult c after info .updated = (after, []) :=
  ⟨Or.inl rfl, duplicate_update_ignored _ ∅ _ .created (Or.inl rfl)⟩

end Adb.Mdns
