import Adb.Mdns.TransportMdns

/-!
# Start-up of Open Screen discovery

`StartOpenScreenDiscovery` of `client/openscreen/mdns_service.cpp` builds the discovery
configuration from the network interfaces and then, in a task, starts one service watcher per
service type of adb. The backend reports errors to a `DiscoveryReportingClient`, whose flag
`got_fatal_` a fatal error sets for good; after each watcher the loop checks the flag, and on a
fatal error stops every running watcher and gives up on the remaining service types. A
recoverable error is only logged.

`startOpenScreenDiscovery_watchers` says which watchers the start-up leaves behind, and
`initDiscovery_status` what the status line of `mdns_check` then reports: the line only tells
whether the environment variable `ADB_MDNS_OPENSCREEN` turned discovery off, not whether a
watcher runs.
-/

namespace Adb.Mdns

/-- The fields of `openscreen::InterfaceInfo` that `GetConfigForAllInterfaces` reads: its IPv4
and its IPv6 address, if it has one. -/
structure InterfaceInfo where
  ipAddressV4 : Option IPv4Address
  ipAddressV6 : Option IPv6Address
  deriving DecidableEq

/-- Whether an interface has an address of either version. -/
def InterfaceInfo.hasAddress (interface : InterfaceInfo) : Bool :=
  interface.ipAddressV4.isSome || interface.ipAddressV6.isSome

/-- The fields of `discovery::Config` that the start-up sets. -/
structure Config where
  enablePublication : Bool
  networkInfo : List InterfaceInfo
  deriving DecidableEq

/-- `GetConfigForAllInterfaces`: a configuration that only consumes mDNS traffic, on every
interface with an address, or none when no interface has one. -/
def getConfigForAllInterfaces (interfaceInfos : List InterfaceInfo) : Option Config :=
  let networkInfo := interfaceInfos.filter InterfaceInfo.hasAddress
  if networkInfo.isEmpty then none else some ⟨false, networkInfo⟩

/-- What the backend reports to the reporting client: which of `OnFatalError` and
`OnRecoverableError` it calls. -/
inductive DiscoveryError where
  | fatal
  | recoverable
  deriving DecidableEq

/-- `DiscoveryReportingClient`, by its flag `got_fatal_`. -/
structure DiscoveryReportingClient where
  gotFatalError : Bool
  deriving DecidableEq

/-- `OnFatalError` sets the flag, and `OnRecoverableError` only logs. -/
def DiscoveryReportingClient.report (client : DiscoveryReportingClient) :
    DiscoveryError → DiscoveryReportingClient
  | .fatal => ⟨true⟩
  | .recoverable => client

/-- A `DnsSdServiceWatcher`, by its service type and whether it runs. -/
structure ServiceWatcher where
  serviceName : String
  isRunning : Bool
  deriving DecidableEq

/-- `StopDiscovery`: the watcher no longer runs. -/
def ServiceWatcher.stopDiscovery (w : ServiceWatcher) : ServiceWatcher :=
  { w with isRunning := false }

/-- One turn of the loop that stops the watchers after a fatal error: a watcher that runs is
stopped. -/
def ServiceWatcher.stopIfRunning (w : ServiceWatcher) : ServiceWatcher :=
  if w.isRunning then w.stopDiscovery else w

@[simp] theorem ServiceWatcher.serviceName_stopIfRunning (w : ServiceWatcher) :
    w.stopIfRunning.serviceName = w.serviceName := by
  unfold stopIfRunning
  split <;> rfl

@[simp] theorem ServiceWatcher.isRunning_stopIfRunning (w : ServiceWatcher) :
    w.stopIfRunning.isRunning = false := by
  unfold stopIfRunning
  split <;> simp_all [stopDiscovery]

/-- The fields of `DiscoveryState` that the start-up sets. -/
structure DiscoveryState where
  config : Option Config
  reportingClient : DiscoveryReportingClient
  watchers : List ServiceWatcher

/-- The loop of the task that `StartOpenScreenDiscovery` posts: start a watcher for the next
service type and keep it; `errorsWhileStarting` gives what the backend reports meanwhile. If
the flag is then set, stop every running watcher and leave the loop. -/
def startWatchers (errorsWhileStarting : String → List DiscoveryError) :
    List String → DiscoveryState → DiscoveryState
  | [], state => state
  | serviceType :: rest, state =>
      let state : DiscoveryState := { state with
        reportingClient := (errorsWhileStarting serviceType).foldl
          DiscoveryReportingClient.report state.reportingClient
        watchers := state.watchers ++ [⟨serviceType, true⟩] }
      if state.reportingClient.gotFatalError then
        { state with watchers := state.watchers.map ServiceWatcher.stopIfRunning }
      else startWatchers errorsWhileStarting rest state

/-- `StartOpenScreenDiscovery` and the task it posts, over the service types
`kADBDNSServices` of `adb_mdns.h`: the state `g_state` once the task has run. Without a
configuration no watcher starts. -/
def startOpenScreenDiscovery (interfaceInfos : List InterfaceInfo)
    (kADBDNSServices : List String) (errorsWhileStarting : String → List DiscoveryError) :
    DiscoveryState :=
  let state : DiscoveryState := ⟨getConfigForAllInterfaces interfaceInfos, ⟨false⟩, []⟩
  match state.config with
  | none => state
  | some _ => startWatchers errorsWhileStarting kADBDNSServices state

/-- The state `g_state` after `init_mdns_transport_discovery`: none when the environment
variable `ADB_MDNS_OPENSCREEN` turns discovery off. -/
def initDiscovery (adbMdnsOpenscreen : Option String) (interfaceInfos : List InterfaceInfo)
    (kADBDNSServices : List String) (errorsWhileStarting : String → List DiscoveryError) :
    Option DiscoveryState :=
  if initMdnsTransportDiscovery adbMdnsOpenscreen then
    some (startOpenScreenDiscovery interfaceInfos kADBDNSServices errorsWhileStarting)
  else none

/-- `IsOpenScreenStarted`: whether `g_state` is set. -/
def isOpenScreenStarted (state : Option DiscoveryState) : Bool :=
  state.isSome

/-! ## The loop over the service types -/

theorem gotFatalError_foldl_report (errors : List DiscoveryError)
    (client : DiscoveryReportingClient) :
    (errors.foldl DiscoveryReportingClient.report client).gotFatalError =
      (client.gotFatalError || decide (DiscoveryError.fatal ∈ errors)) := by
  induction errors generalizing client with
  | nil => simp
  | cons e errors ih => cases e <;> simp [ih, DiscoveryReportingClient.report]

/-- One turn of the loop from a state without a fatal error: the new watcher joins, and a fatal
error while it starts sets the flag and stops every watcher. -/
theorem startWatchers_cons (errorsWhileStarting : String → List DiscoveryError)
    (serviceType : String) (rest : List String) (state : DiscoveryState)
    (hclient : state.reportingClient.gotFatalError = false) :
    startWatchers errorsWhileStarting (serviceType :: rest) state =
      if DiscoveryError.fatal ∈ errorsWhileStarting serviceType then
        ⟨state.config, ⟨true⟩,
          (state.watchers ++ [(⟨serviceType, true⟩ : ServiceWatcher)]).map
            ServiceWatcher.stopIfRunning⟩
      else
        startWatchers errorsWhileStarting rest
          ⟨state.config, ⟨false⟩, state.watchers ++ [⟨serviceType, true⟩]⟩ := by
  have hfold : (errorsWhileStarting serviceType).foldl DiscoveryReportingClient.report
      state.reportingClient = ⟨DiscoveryError.fatal ∈ errorsWhileStarting serviceType⟩ := by
    have h := gotFatalError_foldl_report (errorsWhileStarting serviceType) state.reportingClient
    rw [hclient, Bool.false_or] at h
    rw [← h]
  by_cases hf : DiscoveryError.fatal ∈ errorsWhileStarting serviceType <;>
    simp [startWatchers, hfold, hf]

/-- From a state without a fatal error whose watchers all run, the loop keeps the
configuration, starts a watcher for each service type up to the first one during whose start
the backend reports a fatal error, and then either every watcher runs or, after the fatal
error, none does. -/
theorem startWatchers_spec (errorsWhileStarting : String → List DiscoveryError)
    (serviceTypes : List String) (state : DiscoveryState)
    (hclient : state.reportingClient.gotFatalError = false)
    (hrunning : ∀ w ∈ state.watchers, w.isRunning = true) :
    let final := startWatchers errorsWhileStarting serviceTypes state
    let fatal : String → Bool := fun s => DiscoveryError.fatal ∈ errorsWhileStarting s
    final.config = state.config ∧
      final.reportingClient.gotFatalError = serviceTypes.any fatal ∧
      final.watchers.map (·.serviceName) = state.watchers.map (·.serviceName) ++
        serviceTypes.take (serviceTypes.findIdx fatal + 1) ∧
      ∀ w ∈ final.watchers, w.isRunning = !final.reportingClient.gotFatalError := by
  intro final fatal
  induction serviceTypes generalizing state with
  | nil => simpa [final, startWatchers, hclient] using hrunning
  | cons serviceType rest ih =>
      simp only [final, startWatchers_cons _ _ _ _ hclient]
      by_cases hf : DiscoveryError.fatal ∈ errorsWhileStarting serviceType
      · simp [hf, fatal, List.findIdx_cons, Function.comp_def, or_imp, forall_and]
      · obtain ⟨hc, hg, hn, hr⟩ := ih ⟨state.config, ⟨false⟩, state.watchers ++ [⟨serviceType, true⟩]⟩
          rfl (List.forall_mem_append.2 ⟨hrunning, List.forall_mem_singleton.2 rfl⟩)
        simp only [hf, if_false]
        exact ⟨hc, by simp [hg, fatal, hf], by simp [hn, fatal, List.findIdx_cons, hf], hr⟩

theorem getConfigForAllInterfaces_eq_none_iff (interfaceInfos : List InterfaceInfo) :
    getConfigForAllInterfaces interfaceInfos = none ↔
      ∀ i ∈ interfaceInfos, i.hasAddress = false := by
  simp [getConfigForAllInterfaces, List.filter_eq_nil_iff]

/-- Once the task of `StartOpenScreenDiscovery` has run, there is no configuration exactly when
no interface has an address, and then no watcher. Otherwise a watcher has started for each
service type up to the first one during whose start the backend reported a fatal error, and for
no later one; after a fatal error no watcher runs, and without one every watcher runs. -/
theorem startOpenScreenDiscovery_watchers (interfaceInfos : List InterfaceInfo)
    (kADBDNSServices : List String) (errorsWhileStarting : String → List DiscoveryError) :
    let state := startOpenScreenDiscovery interfaceInfos kADBDNSServices errorsWhileStarting
    let fatal : String → Bool := fun s => DiscoveryError.fatal ∈ errorsWhileStarting s
    (state.config = none ↔ ∀ i ∈ interfaceInfos, i.hasAddress = false) ∧
      state.watchers.map (·.serviceName) =
        (if state.config = none then []
          else kADBDNSServices.take (kADBDNSServices.findIdx fatal + 1)) ∧
      state.reportingClient.gotFatalError = (state.config.isSome && kADBDNSServices.any fatal) ∧
      ∀ w ∈ state.watchers, w.isRunning = !state.reportingClient.gotFatalError := by
  intro state fatal
  have hnone := getConfigForAllInterfaces_eq_none_iff interfaceInfos
  cases h : getConfigForAllInterfaces interfaceInfos with
  | none => simpa [state, startOpenScreenDiscovery, h] using hnone
  | some config =>
      obtain ⟨hc, hg, hn, hr⟩ := startWatchers_spec errorsWhileStarting kADBDNSServices
        ⟨some config, ⟨false⟩, []⟩ rfl nofun
      simp only [state, startOpenScreenDiscovery, h] at hc hg hn hr ⊢
      exact ⟨by simp [hc, ← hnone, h], by simp [hc, hn], by simp [hc, hg], hr⟩

/-- A fatal error while the pairing watcher starts stops both watchers started so far, and the
connect watcher never starts. -/
example :
    (startOpenScreenDiscovery [⟨some ⟨⟨[192, 168, 0, 2], rfl⟩⟩, none⟩]
        ["_adb._tcp", "_adb-tls-pairing._tcp", "_adb-tls-connect._tcp"]
        (fun s => if s = "_adb-tls-pairing._tcp" then [.recoverable, .fatal] else [.recoverable])
      ).watchers = [⟨"_adb._tcp", false⟩, ⟨"_adb-tls-pairing._tcp", false⟩] := by
  decide

/-- When every watcher runs exactly when there was no fatal error, some watcher runs exactly
when there is one and there was no fatal error. -/
theorem exists_isRunning_iff {watchers : List ServiceWatcher} {gotFatal : Bool}
    (h : ∀ w ∈ watchers, w.isRunning = !gotFatal) :
    (∃ w ∈ watchers, w.isRunning = true) ↔ watchers ≠ [] ∧ gotFatal = false := by
  constructor
  · rintro ⟨w, hw, hrun⟩
    exact ⟨List.ne_nil_of_mem hw, by simpa [h w hw] using hrun⟩
  · rintro ⟨hne, rfl⟩
    obtain ⟨w, hw⟩ := List.exists_mem_of_ne_nil watchers hne
    exact ⟨w, hw, by simp [h w hw]⟩

/-- Some watcher runs once the start-up is over exactly when some interface has an address,
there is a service type, and no fatal error was reported while the watchers started. -/
theorem exists_isRunning_startOpenScreenDiscovery_iff (interfaceInfos : List InterfaceInfo)
    (kADBDNSServices : List String) (errorsWhileStarting : String → List DiscoveryError) :
    (∃ w ∈ (startOpenScreenDiscovery interfaceInfos kADBDNSServices
        errorsWhileStarting).watchers, w.isRunning = true) ↔
      (∃ i ∈ interfaceInfos, i.hasAddress = true) ∧ kADBDNSServices ≠ [] ∧
        ∀ s ∈ kADBDNSServices, DiscoveryError.fatal ∉ errorsWhileStarting s := by
  have hnone := getConfigForAllInterfaces_eq_none_iff interfaceInfos
  cases h : getConfigForAllInterfaces interfaceInfos with
  | none =>
      have hno : ¬∃ i ∈ interfaceInfos, i.hasAddress = true := by simpa using hnone.1 h
      simp [startOpenScreenDiscovery, h, hno]
  | some config =>
      obtain ⟨-, hg, hn, hr⟩ := startWatchers_spec errorsWhileStarting kADBDNSServices
        ⟨some config, ⟨false⟩, []⟩ rfl nofun
      have haddr : ∃ i ∈ interfaceInfos, i.hasAddress = true := by simpa [h] using hnone.not
      have hne : (startWatchers errorsWhileStarting kADBDNSServices
          ⟨some config, ⟨false⟩, []⟩).watchers ≠ [] ↔ kADBDNSServices ≠ [] :=
        not_congr (by simpa using congrArg (· = []) hn)
      simp only [startOpenScreenDiscovery, h]
      rw [exists_isRunning_iff hr, hg, hne]
      simp [haddr]

/-- After `init_mdns_transport_discovery`, `mdns_check` reports discovery as disabled exactly
when `ADB_MDNS_OPENSCREEN` is `0`. A watcher runs exactly when, besides, some interface has an
address, there is a service type, and the backend reports no fatal error while the watchers
start: the status line also reports discovery as running when no watcher runs. -/
theorem initDiscovery_status (adbMdnsOpenscreen : Option String)
    (interfaceInfos : List InterfaceInfo) (kADBDNSServices : List String)
    (errorsWhileStarting : String → List DiscoveryError) :
    let state := initDiscovery adbMdnsOpenscreen interfaceInfos kADBDNSServices errorsWhileStarting
    (mdnsCheck (isOpenScreenStarted state) = "ERROR: mdns discovery disabled" ↔
        adbMdnsOpenscreen = some "0") ∧
      ((∃ s ∈ state, ∃ w ∈ s.watchers, w.isRunning = true) ↔
        adbMdnsOpenscreen ≠ some "0" ∧ (∃ i ∈ interfaceInfos, i.hasAddress = true) ∧
          kADBDNSServices ≠ [] ∧
          ∀ s ∈ kADBDNSServices, DiscoveryError.fatal ∉ errorsWhileStarting s) := by
  by_cases henv : adbMdnsOpenscreen = some "0" <;>
    simp [initDiscovery, initMdnsTransportDiscovery, isOpenScreenStarted, mdnsCheck, henv,
      exists_isRunning_startOpenScreenDiscovery_iff]

end Adb.Mdns
