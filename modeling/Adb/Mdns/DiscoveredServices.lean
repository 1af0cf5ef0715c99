import Adb.Mdns.ServiceInfo

/-!
# The registry of discovered services

`mdns::DiscoveredServices` of `client/discovered_services.cpp`: the map from a record's fully
qualified name to the record, with the three mutators the event handler calls and the lookups
the rest of adb uses. Every method holds `services_mutex_` for its whole body, so each method
is one atomic step on the map here.

`ServiceUpdated` merges an incoming record into the stored one field by field. Its loop over
the incoming IPv6 addresses runs over an `unordered_set`, in no particular order; the model
folds over the `Finset`, and `insertV6` being left-commutative is what makes that fold well
defined. `mergeService_eq_self_iff` says when the merge leaves the stored record as it was, and
`serviceUpdated_reports_change` turns that into the method's return value: it reports an
update exactly when the map changed.
-/

namespace Adb.Mdns

/-- `fq_name`: the registry key of a record, `instance + "." + service`. -/
def fqName (info : ServiceInfo) : String :=
  info.«instance» ++ "." ++ info.service

/-- `DiscoveredServices`: the map `services_` from the fully qualified name to the record. -/
abbrev DiscoveredServices := Finmap fun _ : String => ServiceInfo

/-- `stored` already carries everything `info` would write into it: the IPv4 address unless
`info` has none, every IPv6 address, the port and the attributes. -/
def Absorbs (stored info : ServiceInfo) : Prop :=
  (info.v4Address = none ∨ info.v4Address = stored.v4Address) ∧
    info.v6Addresses ⊆ stored.v6Addresses ∧ info.port = stored.port ∧
    info.attributes = stored.attributes

instance (stored info : ServiceInfo) : Decidable (Absorbs stored info) :=
  inferInstanceAs (Decidable (_ ∧ _))

theorem absorbs_self (info : ServiceInfo) : Absorbs info info :=
  ⟨.inr rfl, subset_refl _, rfl, rfl⟩

namespace DiscoveredServices

/-- `DiscoveredServices::ServiceCreated`: store the record under its key, replacing any
record there. -/
def serviceCreated (services : DiscoveredServices) (info : ServiceInfo) :
    DiscoveredServices :=
  services.insert (fqName info) info

/-- One turn of the loop of `ServiceUpdated` over the incoming IPv6 addresses: an address the
stored set lacks is inserted and marks the record updated. -/
def insertV6 (newAddress : IPv6Address) :
    Finset IPv6Address × Bool → Finset IPv6Address × Bool
  | (addresses, updated) =>
      if newAddress ∈ addresses then (addresses, updated) else (insert newAddress addresses, true)

instance : LeftCommutative insertV6 where
  left_comm a b := fun ⟨addresses, updated⟩ => by
    by_cases ha : a ∈ addresses <;> by_cases hb : b ∈ addresses <;>
      by_cases hab : a = b <;> simp [insertV6, ha, hb, hab, @eq_comm _ b a, Finset.Insert.comm]

/-- The branch of `ServiceUpdated` for a key already present: merge `info` into the stored
record `current` field by field, and report whether a field changed. -/
def mergeService (info current : ServiceInfo) : ServiceInfo × Bool :=
  let v4Changed := info.v4Address.isSome && info.v4Address != current.v4Address
  let (v6Addresses, updated) :=
    info.v6Addresses.val.foldr insertV6 (current.v6Addresses, v4Changed)
  let portChanged := info.port != current.port
  let attributesChanged := info.attributes != current.attributes
  ({ current with
      v4Address := if v4Changed then info.v4Address else current.v4Address
      v6Addresses
      port := if portChanged then info.port else current.port
      attributes := if attributesChanged then info.attributes else current.attributes },
    updated || portChanged || attributesChanged)

/-- `DiscoveredServices::ServiceUpdated`: store a record under a new key, or merge it into the
record already there; the flag says whether the map changed. -/
def serviceUpdated (services : DiscoveredServices) (info : ServiceInfo) :
    DiscoveredServices × Bool :=
  let key := fqName info
  match services.lookup key with
  | none => (services.insert key info, true)
  | some current =>
      let (merged, updated) := mergeService info current
      (services.insert key merged, updated)

/-- `DiscoveredServices::ServiceDeleted`: drop the record under the key, whatever the other
fields of `info` hold. -/
def serviceDeleted (services : DiscoveredServices) (info : ServiceInfo) :
    DiscoveredServices :=
  services.erase (fqName info)

/-- `DiscoveredServices::FindInstance`: the record under `instance + "." + service`. -/
def findInstance (services : DiscoveredServices) (service inst : String) :
    Option ServiceInfo :=
  services.lookup (inst ++ "." ++ service)

/-- `DiscoveredServices::ForAllServices`: the records the callback is called on, once each,
in the unspecified order of the hash map. -/
def forAllServices (services : DiscoveredServices) : Multiset ServiceInfo :=
  services.entries.map Sigma.snd

/-- `DiscoveredServices::ForEachServiceNamed`: the records with the given service type. -/
def forEachServiceNamed (services : DiscoveredServices) (serviceName : String) :
    Multiset ServiceInfo :=
  (forAllServices services).filter (·.service = serviceName)

/-- `ForAllServices` visits exactly the records stored under some key. -/
theorem mem_forAllServices_iff {services : DiscoveredServices} {info : ServiceInfo} :
    info ∈ forAllServices services ↔ ∃ key, services.lookup key = some info := by
  simp only [forAllServices, Multiset.mem_map, Finmap.lookup_eq_some_iff]
  constructor
  · rintro ⟨⟨key, v⟩, hmem, rfl⟩
    exact ⟨key, hmem⟩
  · rintro ⟨key, hmem⟩
    exact ⟨⟨key, info⟩, hmem, rfl⟩

/-- `ForAllServices` calls the callback once per key. -/
theorem card_forAllServices (services : DiscoveredServices) :
    Multiset.card (forAllServices services) = services.keys.card := by
  simp [forAllServices, Finmap.keys, Multiset.keys]

/-! ## The merge -/

/-- The loop over the incoming IPv6 addresses computes the union, and it reports an update
exactly when some incoming address was missing. -/
theorem foldr_insertV6 (incoming addresses : Finset IPv6Address) (updated : Bool) :
    incoming.val.foldr insertV6 (addresses, updated) =
      (addresses ∪ incoming, updated || !decide (incoming ⊆ addresses)) := by
  induction incoming using Finset.induction_on with
  | empty => simp
  | insert hnew ih =>
      rename_i a incoming
      rw [Finset.insert_val_of_not_mem hnew, Multiset.foldr_cons, ih]
      by_cases ha : a ∈ addresses <;> by_cases hin : a ∈ incoming <;>
        simp [insertV6, ha, hin, hnew, Finset.insert_subset_iff]

theorem mergeService_fst (info current : ServiceInfo) :
    (mergeService info current).1 =
      { current with
        v4Address := info.v4Address.or current.v4Address
        v6Addresses := current.v6Addresses ∪ info.v6Addresses
        port := info.port
        attributes := info.attributes } := by
  cases hv : info.v4Address <;> simp [mergeService, foldr_insertV6, hv] <;>
    simp only [eq_comm, imp_self, and_self]

theorem mergeService_snd (info current : ServiceInfo) :
    (mergeService info current).2 = !decide (Absorbs current info) := by
  rw [Bool.eq_iff_iff]
  cases hv : info.v4Address <;> simp [mergeService, foldr_insertV6, Absorbs, hv, or_assoc]

/-- The merge leaves the stored record as it was exactly when the record absorbs `info`. -/
theorem mergeService_eq_self_iff (info current : ServiceInfo) :
    (mergeService info current).1 = current ↔ Absorbs current info := by
  obtain ⟨i, s, v4, v6, port, attributes⟩ := current
  cases hv : info.v4Address <;> simp [mergeService_fst, Absorbs, hv]

/-- The merged record absorbs the record merged into it. -/
theorem absorbs_mergeService (info current : ServiceInfo) :
    Absorbs (mergeService info current).1 info := by
  rw [mergeService_fst]
  refine ⟨?_, Finset.subset_union_right, rfl, rfl⟩
  cases info.v4Address <;> simp

/-! ## The three mutators, key by key -/

/-- Writing back the value a key already holds leaves the map as it was. -/
theorem insert_eq_self_iff {services : DiscoveredServices} {key : String}
    {stored info : ServiceInfo} (h : services.lookup key = some stored) :
    services.insert key info = services ↔ info = stored := by
  constructor
  · intro heq
    have hkey := congrArg (Finmap.lookup key) heq
    rwa [Finmap.lookup_insert, h, Option.some.injEq] at hkey
  · rintro rfl
    exact Finmap.ext_lookup fun k => by
      by_cases hk : k = key
      · subst hk; simp [h]
      · simp [Finmap.lookup_insert_of_ne _ hk]

variable (services : DiscoveredServices) (info : ServiceInfo)

theorem serviceUpdated_of_lookup_none (h : services.lookup (fqName info) = none) :
    serviceUpdated services info = (services.insert (fqName info) info, true) := by
  simp [serviceUpdated, h]

theorem serviceUpdated_of_lookup_some {current : ServiceInfo}
    (h : services.lookup (fqName info) = some current) :
    serviceUpdated services info =
      (services.insert (fqName info) (mergeService info current).1,
        (mergeService info current).2) := by
  simp [serviceUpdated, h]

theorem lookup_serviceCreated (key : String) :
    (serviceCreated services info).lookup key =
      if key = fqName info then some info else services.lookup key := by
  split_ifs with hk
  · subst hk; exact Finmap.lookup_insert _
  · exact Finmap.lookup_insert_of_ne _ hk

theorem lookup_serviceDeleted (key : String) :
    (serviceDeleted services info).lookup key =
      if key = fqName info then none else services.lookup key := by
  split_ifs with hk
  · subst hk; exact Finmap.lookup_erase _ _
  · exact Finmap.lookup_erase_ne hk

theorem lookup_serviceUpdated (key : String) :
    (serviceUpdated services info).1.lookup key =
      if key = fqName info then
        some ((services.lookup key).elim info fun current => (mergeService info current).1)
      else services.lookup key := by
  split_ifs with hk
  · subst hk
    cases h : services.lookup (fqName info) <;>
      simp [serviceUpdated_of_lookup_none, serviceUpdated_of_lookup_some, h]
  · cases h : services.lookup (fqName info) <;>
      simp [serviceUpdated_of_lookup_none, serviceUpdated_of_lookup_some, h,
        Finmap.lookup_insert_of_ne _ hk]

theorem serviceUpdated_eq_false_iff :
    (serviceUpdated services info).2 = false ↔
      ∃ stored, services.lookup (fqName info) = some stored ∧ Absorbs stored info := by
  cases h : services.lookup (fqName info) with
  | none => simp [serviceUpdated_of_lookup_none _ _ h]
  | some current => simp [serviceUpdated_of_lookup_some _ _ h, mergeService_snd]

/-- The map is left as it was exactly when `ServiceUpdated` reports no update. -/
theorem serviceUpdated_fst_eq_self_iff :
    (serviceUpdated services info).1 = services ↔ (serviceUpdated services info).2 = false := by
  cases h : services.lookup (fqName info) with
  | none =>
      have hne : services.insert (fqName info) info ≠ services := fun heq => by
        simpa [h] using congrArg (Finmap.lookup (fqName info)) heq
      simp [serviceUpdated_of_lookup_none _ _ h, hne]
  | some current =>
      simp [serviceUpdated_of_lookup_some _ _ h, insert_eq_self_iff h, mergeService_eq_self_iff,
        mergeService_snd]

/-- `ServiceUpdated` returns `true` exactly when the map after the call differs from the map
before it. It returns `false` exactly when a record is stored under the key and already holds
the incoming IPv4 address (if any), every incoming IPv6 address, the port and the
attributes; the map is then left as it was. -/
theorem serviceUpdated_reports_change :
    ((serviceUpdated services info).2 = true ↔ (serviceUpdated services info).1 ≠ services) ∧
    ((serviceUpdated services info).2 = false ↔
      ∃ stored, services.lookup (fqName info) = some stored ∧
        (info.v4Address = none ∨ info.v4Address = stored.v4Address) ∧
        info.v6Addresses ⊆ stored.v6Addresses ∧ info.port = stored.port ∧
        info.attributes = stored.attributes) ∧
    ((serviceUpdated services info).2 = false →
      (serviceUpdated services info).1 = services) :=
  ⟨by rw [ne_eq, serviceUpdated_fst_eq_self_iff, Bool.not_eq_false],
    serviceUpdated_eq_false_iff services info,
    (serviceUpdated_fst_eq_self_iff services info).2⟩

end DiscoveredServices

end Adb.Mdns
