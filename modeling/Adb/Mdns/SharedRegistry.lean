import Adb.Mdns.Registry

/-!
# The registry under concurrent callers

`discovered_services` is one object that the threads of the adb server share: the task runner
of the discovery backend calls the three mutators from `OnServiceReceiverResult`, and the
threads that serve client commands call `FindInstance` and `ForAllServices`. Every method of
`client/discovered_services.cpp` holds `services_mutex_` through a `lock_guard` for its whole
body. The other modules read each call as one atomic step on the map; this one checks that
reading against the steps the bodies really take.

Where a thread stands in a call is a `Pc`. `ServiceUpdated` is the only method whose body takes
more than one step on the map: its merge branch writes through the reference `current_service`
one field at a time, and its loop visits the incoming IPv6 addresses in the order of the
`unordered_set`, which the scheduler picks here address by address. The ghost `history` records
each call with its reply when the call releases the lock.

Over every schedule of any number of threads:

* `mutual_exclusion`: no two threads are inside a method body at once;
* `others_wait`: while a thread owns the lock, the moves of the others change nothing but their
  own position: they call a method and wait;
* `runSchedule_linearizable`: every reply a thread received is the reply of the atomic call on
  the registry that the mutations returned before it leave, so no reader sees a record half
  merged, and whenever the lock is free the map is `DiscoveredServices.run` of the returned
  mutations;
* `holder_completes`: the thread inside a body finishes its call by its own moves, and the call
  returns and writes what the atomic call does;
* `all_calls_return`: from every reachable state some further moves return every pending call
  exactly once, and `concurrent_updates_present` draws the consequence for concurrent updates of
  distinct keys: once they return, every record is stored.

The step that carries the refinement is `inFlight_mergeStep`: inside the merge branch the map
always holds the atomic merge of the part of the incoming record processed so far.
-/

namespace Adb.Mdns.DiscoveredServices

/-- A call of a method of `DiscoveredServices`, with its arguments. -/
inductive Call where
  | serviceCreated (info : ServiceInfo)
  | serviceUpdated (info : ServiceInfo)
  | serviceDeleted (info : ServiceInfo)
  | findInstance (service inst : String)
  | forEachServiceNamed (serviceName : String)
  | forAllServices
  deriving DecidableEq

/-- What a call gives back: the flag of `ServiceUpdated`, the copy `FindInstance` returns, or the
records the two iterations pass to their callback. -/
inductive Reply where
  | done
  | updated (flag : Bool)
  | found (info : Option ServiceInfo)
  | visited (infos : Multiset ServiceInfo)
  deriving DecidableEq

/-- The registry event a mutator applies; `none` for the readers. -/
def Call.event? : Call → Option Event
  | .serviceCreated info => some (.created, info)
  | .serviceUpdated info => some (.updated, info)
  | .serviceDeleted info => some (.deleted, info)
  | _ => none

/-- A call as one atomic step on the map, the reading of the other modules. -/
def perform (services : DiscoveredServices) : Call → DiscoveredServices × Reply
  | .serviceCreated info => (serviceCreated services info, .done)
  | .serviceUpdated info =>
      ((serviceUpdated services info).1, .updated (serviceUpdated services info).2)
  | .serviceDeleted info => (serviceDeleted services info, .done)
  | .findInstance service inst => (services, .found (findInstance services service inst))
  | .forEachServiceNamed serviceName =>
      (services, .visited (forEachServiceNamed services serviceName))
  | .forAllServices => (services, .visited (forAllServices services))

/-- Calls one after the other on the atomic registry, from the empty map: the map they leave and
their replies in order. -/
def performAll (calls : List Call) : DiscoveredServices × List Reply :=
  calls.foldl (fun done call =>
    ((perform done.1 call).1, done.2 ++ [(perform done.1 call).2])) (∅, [])

theorem perform_fst (services : DiscoveredServices) (call : Call) :
    (perform services call).1 = (call.event?).elim services (applyEvent services) := by
  cases call <;> rfl

theorem performAll_append (calls : List Call) (call : Call) :
    performAll (calls ++ [call]) =
      ((perform (performAll calls).1 call).1,
        (performAll calls).2 ++ [(perform (performAll calls).1 call).2]) := by
  simp [performAll, List.foldl_append]

/-- The map the atomic calls leave is the run of their mutations: the readers change nothing. -/
theorem performAll_fst (calls : List Call) :
    (performAll calls).1 = run (calls.filterMap Call.event?) := by
  induction calls using List.reverseRecOn with
  | nil => rfl
  | append_singleton calls call ih =>
      rw [performAll_append, perform_fst, ih, List.filterMap_append]
      cases h : call.event? <;> simp [h, run_append_event]

/-- Updates of records with pairwise distinct keys, taken in any order, leave each record stored
under its key. -/
theorem lookup_run_of_perm_updates {calls : List Call} {infos : List ServiceInfo}
    (hkeys : (infos.map fqName).Nodup) (hperm : calls.Perm (infos.map Call.serviceUpdated))
    {info : ServiceInfo} (hinfo : info ∈ infos) :
    (run (calls.filterMap Call.event?)).lookup (fqName info) = some info := by
  have hevents : (calls.filterMap Call.event?).Perm
      (infos.map fun info => ((.updated : ServiceInfoState), info)) := by
    have h := hperm.filterMap Call.event?
    rwa [List.filterMap_map, show Call.event? ∘ Call.serviceUpdated =
      some ∘ (fun info => ((.updated : ServiceInfoState), info)) from rfl,
      List.filterMap_eq_map] at h
  have hshape : ((calls.filterMap Call.event?).map Prod.snd).map
      (fun info => ((.updated : ServiceInfoState), info)) = calls.filterMap Call.event? := by
    rw [List.map_map]
    refine (List.map_congr_left fun event hevent => ?_).trans (List.map_id _)
    obtain ⟨i, -, rfl⟩ := List.mem_map.1 (hevents.mem_iff.1 hevent)
    rfl
  have hinfos : ((calls.filterMap Call.event?).map Prod.snd).Perm infos := by
    simpa [List.map_map] using hevents.map Prod.snd
  rw [← hshape]
  exact lookup_run_updates_of_mem ((hinfos.map fqName).nodup_iff.2 hkeys) (hinfos.mem_iff.2 hinfo)

theorem length_performAll_snd (calls : List Call) : (performAll calls).2.length = calls.length := by
  induction calls using List.reverseRecOn with
  | nil => rfl
  | append_singleton calls call ih => simp [performAll_append, ih]

/-- Later calls only add replies after those of earlier calls. -/
theorem performAll_snd_append (calls calls' : List Call) :
    ∃ replies, (performAll (calls ++ calls')).2 = (performAll calls).2 ++ replies := by
  induction calls' using List.reverseRecOn with
  | nil => exact ⟨[], by simp⟩
  | append_singleton calls' call ih =>
      obtain ⟨replies, h⟩ := ih
      exact ⟨replies ++ [_], by rw [← List.append_assoc, performAll_append, h, List.append_assoc]⟩

/-- If the recorded replies are those of the atomic registry, each of them is the reply of the
atomic call on the registry that the mutations recorded before it leave. -/
theorem reply_eq_of_performAll {history : List (Call × Reply)}
    (h : (performAll (history.map Prod.fst)).2 = history.map Prod.snd)
    {pre post : List (Call × Reply)} {call : Call} {reply : Reply}
    (hsplit : history = pre ++ (call, reply) :: post) :
    reply = (perform (run (pre.filterMap fun entry => entry.1.event?)) call).2 := by
  subst hsplit
  obtain ⟨replies, hreplies⟩ := performAll_snd_append (pre.map Prod.fst ++ [call]) (post.map Prod.fst)
  have hlen : (performAll (pre.map Prod.fst)).2.length = (pre.map Prod.snd).length := by
    simp [length_performAll_snd]
  simp only [List.map_append, List.map_cons, List.append_assoc, List.singleton_append] at h hreplies
  rw [hreplies, performAll_append, List.append_assoc, List.singleton_append] at h
  obtain ⟨-, hhead⟩ := List.append_inj h hlen
  rw [← (List.cons.inj hhead).1, performAll_fst, List.filterMap_map]
  rfl

/-! ## Threads -/

/-- Threads are told apart by a number. -/
abbrev ThreadId := Nat

/-- How far the merge branch of `ServiceUpdated` has got: at the IPv4 comparison, in the loop
with the incoming addresses `visited` done, at the port comparison, at the attribute
comparison. -/
inductive MergeStage where
  | v4
  | v6 (visited : Finset IPv6Address)
  | port
  | attributes
  deriving DecidableEq

/-- Where a thread stands with respect to the registry. -/
inductive Pc where
  /-- Outside every method of the registry. -/
  | idle
  /-- Has called `call` and waits in the constructor of `lock_guard` for `services_mutex_`. -/
  | locking (call : Call)
  /-- Holds the lock, at the first statement of the body of `call`. -/
  | entered (call : Call)
  /-- Holds the lock, in the merge branch of `ServiceUpdated` for `info`, with its local
  `updated` as it stands. -/
  | merging (info : ServiceInfo) (stage : MergeStage) (updated : Bool)
  /-- Holds the lock, at the `return` of `call` with `reply`. -/
  | returning (call : Call) (reply : Reply)
  deriving DecidableEq

/-- Whether a thread at this point holds `services_mutex_`. -/
def Pc.holdsLock : Pc → Bool
  | .idle | .locking _ => false
  | _ => true

/-- The call a thread is in. -/
def Pc.call? : Pc → Option Call
  | .idle => none
  | .locking call | .entered call | .returning call _ => some call
  | .merging info _ _ => some (.serviceUpdated info)

/-- A scheduler's choice for one thread: call a method, take the next step, or run the loop of
`ServiceUpdated` on one incoming address. -/
inductive Move where
  | call (call : Call)
  | next
  | visit (address : IPv6Address)
  deriving DecidableEq

/-! ## The bodies -/

/-- The first step of a body under the lock. Every method but `ServiceUpdated` runs its whole
body in it; `ServiceUpdated` stores a record under a new key at once, and otherwise enters its
merge branch with `updated` false. -/
def enter (services : DiscoveredServices) : Call → DiscoveredServices × Pc
  | .serviceCreated info =>
      (serviceCreated services info, .returning (.serviceCreated info) .done)
  | .serviceUpdated info =>
      match services.lookup (fqName info) with
      | none =>
          (services.insert (fqName info) info, .returning (.serviceUpdated info) (.updated true))
      | some _ => (services, .merging info .v4 false)
  | .serviceDeleted info =>
      (serviceDeleted services info, .returning (.serviceDeleted info) .done)
  | .findInstance service inst =>
      (services, .returning (.findInstance service inst)
        (.found (findInstance services service inst)))
  | .forEachServiceNamed serviceName =>
      (services, .returning (.forEachServiceNamed serviceName)
        (.visited (forEachServiceNamed services serviceName)))
  | .forAllServices =>
      (services, .returning .forAllServices (.visited (forAllServices services)))

/-- One `if` of the merge branch: compare a field of `current_service`, the record under `key`,
with the incoming record and write it when they differ. Gives the map and whether it wrote;
`none` when the key holds no record. -/
def writeIfChanged (services : DiscoveredServices) (key : String)
    (changed : ServiceInfo → Bool) (write : ServiceInfo → ServiceInfo) :
    Option (DiscoveredServices × Bool) :=
  (services.lookup key).map fun current =>
    if changed current then (services.insert key (write current), true) else (services, false)

/-- One step of the merge branch of `ServiceUpdated` for `info` at `stage`: the IPv4
comparison, one turn of the loop on an incoming address not yet visited, the end of the loop
once every address is visited, the port comparison, and the attribute comparison, after which
the body returns `updated`. `none` when `move` is not a step the branch can take there. -/
def mergeStep (services : DiscoveredServices) (info : ServiceInfo) (updated : Bool) :
    MergeStage → Move → Option (DiscoveredServices × Pc)
  | .v4, .next =>
      (writeIfChanged services (fqName info)
          (fun current => info.v4Address.isSome && info.v4Address != current.v4Address)
          (fun current => { current with v4Address := info.v4Address })).map
        fun (services, changed) => (services, .merging info (.v6 ∅) (updated || changed))
  | .v6 visited, .visit address =>
      if address ∈ info.v6Addresses ∧ address ∉ visited then
        (writeIfChanged services (fqName info)
            (fun current => decide (address ∉ current.v6Addresses))
            (fun current => { current with
              v6Addresses := insert address current.v6Addresses })).map
          fun (services, changed) =>
            (services, .merging info (.v6 (insert address visited)) (updated || changed))
      else none
  | .v6 visited, .next =>
      if visited = info.v6Addresses then some (services, .merging info .port updated) else none
  | .port, .next =>
      (writeIfChanged services (fqName info) (fun current => info.port != current.port)
          (fun current => { current with port := info.port })).map
        fun (services, changed) => (services, .merging info .attributes (updated || changed))
  | .attributes, .next =>
      (writeIfChanged services (fqName info)
          (fun current => info.attributes != current.attributes)
          (fun current => { current with attributes := info.attributes })).map
        fun (services, changed) =>
          (services, .returning (.serviceUpdated info) (.updated (updated || changed)))
  | _, _ => none

/-! ## What the map holds inside a body -/

/-- The part of the incoming record `info` that the merge branch has written into `current`
when it reaches `stage`: the fields it has not reached yet are those of `current`. -/
def MergeStage.processed (info current : ServiceInfo) : MergeStage → ServiceInfo
  | .v4 => { info with
      v4Address := none, v6Addresses := ∅, port := current.port, attributes := current.attributes }
  | .v6 visited => { info with
      v6Addresses := visited, port := current.port, attributes := current.attributes }
  | .port => { info with port := current.port, attributes := current.attributes }
  | .attributes => { info with attributes := current.attributes }

/-- The loop has visited only incoming addresses. -/
def MergeStage.Within (info : ServiceInfo) : MergeStage → Prop
  | .v6 visited => visited ⊆ info.v6Addresses
  | _ => True

/-- What the map holds while the holder of the lock stands at `pc`, given the map `committed`
that the returned calls left: nothing written yet at the first statement, the atomic merge of
the part of the incoming record processed so far inside the merge branch, and the atomic call's
map and reply at the `return`. -/
def InFlight (committed services : DiscoveredServices) : Pc → Prop
  | .idle | .locking _ => False
  | .entered _ => services = committed
  | .merging info stage updated =>
      stage.Within info ∧ ∃ current, committed.lookup (fqName info) = some current ∧
        services = committed.insert (fqName info)
          (mergeService (stage.processed info current) current).1 ∧
        updated = (mergeService (stage.processed info current) current).2
  | .returning call reply => perform committed call = (services, reply)

theorem InFlight.holdsLock {committed services : DiscoveredServices} {pc : Pc}
    (h : InFlight committed services pc) : pc.holdsLock = true := by
  cases pc <;> first | rfl | exact h.elim

/-- The atomic merge in closed form, each field as the merge branch computes it. -/
theorem mergeService_eq (info current : ServiceInfo) :
    mergeService info current =
      ({ current with
          v4Address := info.v4Address.or current.v4Address
          v6Addresses := current.v6Addresses ∪ info.v6Addresses
          port := info.port
          attributes := info.attributes },
        (info.v4Address.isSome && info.v4Address != current.v4Address) ||
          !decide (info.v6Addresses ⊆ current.v6Addresses) || info.port != current.port ||
          info.attributes != current.attributes) := by
  refine Prod.ext (mergeService_fst info current) ?_
  rw [mergeService_snd, Bool.eq_iff_iff]
  cases hv : info.v4Address <;> simp [Absorbs, hv, or_assoc]

theorem writeIfChanged_insert (committed : DiscoveredServices) (key : String)
    (stored : ServiceInfo) (changed : ServiceInfo → Bool) (write : ServiceInfo → ServiceInfo) :
    writeIfChanged (committed.insert key stored) key changed write =
      some (committed.insert key (if changed stored then write stored else stored),
        changed stored) := by
  by_cases h : changed stored <;> simp [writeIfChanged, h]

/-- The first step of a body leaves the map and reply of the atomic call, or enters the merge
branch with nothing written. -/
theorem inFlight_enter (committed : DiscoveredServices) (call : Call) :
    InFlight committed (enter committed call).1 (enter committed call).2 := by
  cases call with
  | serviceUpdated info =>
      cases h : committed.lookup (fqName info) with
      | none => simp [enter, InFlight, perform, h, serviceUpdated_of_lookup_none]
      | some current =>
          simp only [enter, h, InFlight]
          refine ⟨trivial, current, rfl, ?_, by simp [MergeStage.processed, mergeService_eq]⟩
          simpa [MergeStage.processed, mergeService_eq] using ((insert_eq_self_iff h).2 rfl).symm
  | _ => rfl

/-! Each statement of the merge branch takes the record and the flag of the part processed so far
to those of the part processed one statement later. -/

section MergeStatements

variable (info current : ServiceInfo)

theorem merge_after_v4 :
    let m := mergeService (MergeStage.v4.processed info current) current
    let changed := info.v4Address.isSome && info.v4Address != m.1.v4Address
    (if changed then { m.1 with v4Address := info.v4Address } else m.1, m.2 || changed) =
      mergeService ((MergeStage.v6 ∅).processed info current) current := by
  cases hv : info.v4Address <;> simp [MergeStage.processed, mergeService_eq, hv]
  exact Eq.symm

theorem merge_after_visit {visited : Finset IPv6Address} {address : IPv6Address}
    (hnew : address ∉ visited) :
    let m := mergeService ((MergeStage.v6 visited).processed info current) current
    let changed := decide (address ∉ m.1.v6Addresses)
    (if changed then { m.1 with v6Addresses := insert address m.1.v6Addresses } else m.1,
        m.2 || changed) =
      mergeService ((MergeStage.v6 (insert address visited)).processed info current) current := by
  by_cases hc : address ∈ current.v6Addresses <;>
    simp [MergeStage.processed, mergeService_eq, hc, hnew, Finset.insert_subset_iff]

theorem merge_after_port :
    let m := mergeService (MergeStage.port.processed info current) current
    let changed := info.port != m.1.port
    (if changed then { m.1 with port := info.port } else m.1, m.2 || changed) =
      mergeService (MergeStage.attributes.processed info current) current := by
  by_cases hc : info.port = current.port <;> simp [MergeStage.processed, mergeService_eq, hc]

theorem merge_after_attributes :
    let m := mergeService (MergeStage.attributes.processed info current) current
    let changed := info.attributes != m.1.attributes
    (if changed then { m.1 with attributes := info.attributes } else m.1, m.2 || changed) =
      mergeService info current := by
  by_cases hc : info.attributes = current.attributes <;>
    simp [MergeStage.processed, mergeService_eq, hc]

end MergeStatements

/-- A statement of the merge branch that writes the record and flag of the part processed by
`stage` keeps the map what `InFlight` says. -/
theorem inFlight_merging {committed : DiscoveredServices} {info current record : ServiceInfo}
    {stage : MergeStage} {updated : Bool} (hcurrent : committed.lookup (fqName info) = some current)
    (hwithin : stage.Within info)
    (h : (record, updated) = mergeService (stage.processed info current) current) :
    InFlight committed (committed.insert (fqName info) record) (.merging info stage updated) :=
  ⟨hwithin, current, hcurrent, congrArg (committed.insert (fqName info)) (congrArg Prod.fst h),
    congrArg Prod.snd h⟩

/-- One step of the merge branch keeps the map equal to the atomic merge of the part processed
so far, and its last step leaves the map and flag of the atomic `ServiceUpdated`. -/
theorem inFlight_mergeStep {committed services services' : DiscoveredServices}
    {info : ServiceInfo} {stage : MergeStage} {updated : Bool} {move : Move} {pc : Pc}
    (hflight : InFlight committed services (.merging info stage updated))
    (hstep : mergeStep services info updated stage move = some (services', pc)) :
    InFlight committed services' pc := by
  obtain ⟨hwithin, current, hcurrent, rfl, rfl⟩ := hflight
  cases stage <;> cases move <;>
    simp only [mergeStep, writeIfChanged_insert, Option.map_some', reduceCtorEq] at hstep
  case v4.next =>
    obtain ⟨rfl, rfl⟩ := Prod.mk.inj (Option.some.inj hstep)
    exact inFlight_merging hcurrent (Finset.empty_subset _) (merge_after_v4 info current)
  case v6.visit visited address =>
    by_cases hvisit : address ∈ info.v6Addresses ∧ address ∉ visited
    · rw [if_pos hvisit] at hstep
      obtain ⟨rfl, rfl⟩ := Prod.mk.inj (Option.some.inj hstep)
      exact inFlight_merging hcurrent (Finset.insert_subset hvisit.1 hwithin)
        (merge_after_visit info current hvisit.2)
    · simp [hvisit] at hstep
  case v6.next visited =>
    split_ifs at hstep with hdone
    obtain ⟨rfl, rfl⟩ := Prod.mk.inj (Option.some.inj hstep)
    subst hdone
    exact ⟨trivial, current, hcurrent, rfl, rfl⟩
  case port.next =>
    obtain ⟨rfl, rfl⟩ := Prod.mk.inj (Option.some.inj hstep)
    exact inFlight_merging hcurrent trivial (merge_after_port info current)
  case attributes.next =>
    obtain ⟨rfl, rfl⟩ := Prod.mk.inj (Option.some.inj hstep)
    simp only [InFlight, perform, serviceUpdated_of_lookup_some _ _ hcurrent,
      ← merge_after_attributes info current]

/-! ## The shared object -/

/-- The registry object as the threads share it: the map `services_`, the owner of
`services_mutex_`, where each thread stands, and the ghost history of the returned calls with
their replies, in the order they released the lock. -/
structure Shared where
  services : DiscoveredServices
  holder : Option ThreadId
  pcs : ThreadId → Pc
  history : List (Call × Reply)

namespace Shared

/-- The object at start-up: the map is empty and no thread is in a method. -/
def init : Shared := ⟨∅, none, fun _ => .idle, []⟩

/-- Thread `t` at `pc`, everything else as it was. -/
def setPc (r : Shared) (t : ThreadId) (pc : Pc) : Shared :=
  { r with pcs := Function.update r.pcs t pc }

/-- One move of thread `t`. A move the thread cannot make where it stands changes nothing; in
particular a thread waiting for a lock another thread holds keeps waiting. Leaving the body
releases the lock and records the call. -/
def step (r : Shared) (t : ThreadId) (move : Move) : Shared :=
  match r.pcs t, move with
  | .idle, .call call => r.setPc t (.locking call)
  | .locking call, .next =>
      if r.holder = none then { r.setPc t (.entered call) with holder := some t } else r
  | .entered call, .next =>
      { r.setPc t (enter r.services call).2 with services := (enter r.services call).1 }
  | .merging info stage updated, move =>
      match mergeStep r.services info updated stage move with
      | some (services, pc) => { r.setPc t pc with services }
      | none => r
  | .returning call reply, .next =>
      { r.setPc t .idle with holder := none, history := r.history ++ [(call, reply)] }
  | _, _ => r

/-- The object after the moves of `schedule`, in order. -/
def steps (r : Shared) (schedule : List (ThreadId × Move)) : Shared :=
  schedule.foldl (fun r move => r.step move.1 move.2) r

/-- The object after the moves of `schedule` from start-up. -/
def runSchedule (schedule : List (ThreadId × Move)) : Shared :=
  init.steps schedule

/-- The map that the returned calls leave on the atomic registry. -/
def committed (r : Shared) : DiscoveredServices :=
  (performAll (r.history.map Prod.fst)).1

@[simp] theorem setPc_pcs_self (r : Shared) (t : ThreadId) (pc : Pc) :
    (r.setPc t pc).pcs t = pc :=
  Function.update_same _ _ _

@[simp] theorem setPc_pcs_of_ne (r : Shared) {t u : ThreadId} (pc : Pc) (h : u ≠ t) :
    (r.setPc t pc).pcs u = r.pcs u :=
  Function.update_noteq h _ _

@[simp] theorem setPc_services (r : Shared) (t : ThreadId) (pc : Pc) :
    (r.setPc t pc).services = r.services := rfl

@[simp] theorem setPc_holder (r : Shared) (t : ThreadId) (pc : Pc) :
    (r.setPc t pc).holder = r.holder := rfl

@[simp] theorem setPc_history (r : Shared) (t : ThreadId) (pc : Pc) :
    (r.setPc t pc).history = r.history := rfl

theorem steps_nil (r : Shared) : r.steps [] = r := rfl

theorem steps_cons (r : Shared) (move : ThreadId × Move) (schedule : List (ThreadId × Move)) :
    r.steps (move :: schedule) = (r.step move.1 move.2).steps schedule := rfl

theorem steps_append (r : Shared) (schedule schedule' : List (ThreadId × Move)) :
    r.steps (schedule ++ schedule') = (r.steps schedule).steps schedule' :=
  List.foldl_append _ _ _ _

/-- A move of one thread leaves where every other thread stands. -/
theorem step_pcs_of_ne (r : Shared) {t u : ThreadId} (move : Move) (h : u ≠ t) :
    (r.step t move).pcs u = r.pcs u := by
  unfold Shared.step
  split <;> (try split) <;> simp [h]

theorem steps_pcs_of_not_mem (schedule : List (ThreadId × Move)) {u : ThreadId}
    (h : ∀ move ∈ schedule, move.1 ≠ u) : ∀ r : Shared, (r.steps schedule).pcs u = r.pcs u := by
  induction schedule with
  | nil => intro r; rfl
  | cons move schedule ih =>
      intro r
      rw [steps_cons, ih (fun m hm => h m (List.mem_cons_of_mem _ hm)),
        step_pcs_of_ne _ _ (Ne.symm (h move (List.mem_cons_self _ _)))]

/-! ## The invariant -/

/-- The invariant of the shared object: a thread is inside a body exactly when it owns the
lock, the replies recorded are those of the atomic registry, the map is the atomic registry's
whenever the lock is free, and otherwise it is what `InFlight` says for where the owner stands. -/
structure Consistent (r : Shared) : Prop where
  holdsLock_iff : ∀ t, (r.pcs t).holdsLock = true ↔ r.holder = some t
  replies : (performAll (r.history.map Prod.fst)).2 = r.history.map Prod.snd
  free : r.holder = none → r.services = r.committed
  inFlight : ∀ t, r.holder = some t → InFlight r.committed r.services (r.pcs t)

theorem consistent_init : init.Consistent where
  holdsLock_iff _ := by simp [init, Pc.holdsLock]
  replies := rfl
  free _ := rfl
  inFlight _ h := nomatch h

variable {r : Shared}

/-- Lock ownership after thread `t` moves to `pc` and the owner becomes `holder`. -/
theorem holdsLock_iff_setPc {t : ThreadId} {pc : Pc} {holder : Option ThreadId}
    (hpc : pc.holdsLock = true ↔ holder = some t)
    (hother : ∀ u ≠ t, (r.pcs u).holdsLock = true ↔ holder = some u) (u : ThreadId) :
    ((r.setPc t pc).pcs u).holdsLock = true ↔ holder = some u := by
  by_cases hu : u = t
  · subst hu; simpa using hpc
  · simpa [hu] using hother u hu

/-- A thread outside every body moves to another point outside every body. -/
theorem Consistent.setPc_outside {t : ThreadId} (h : r.Consistent) (ht : (r.pcs t).holdsLock = false)
    {pc : Pc} (hpc : pc.holdsLock = false) : (r.setPc t pc).Consistent := by
  have hne : r.holder ≠ some t := fun hh => by simp [(h.holdsLock_iff t).2 hh] at ht
  refine ⟨holdsLock_iff_setPc (by simp [hpc, hne]) (fun u _ => h.holdsLock_iff u), h.replies,
    h.free, fun u hu => ?_⟩
  have hu' : u ≠ t := by rintro rfl; exact hne hu
  simpa [hu'] using h.inFlight u hu

/-- A waiting thread takes the free lock and stands at the first statement of its body. -/
theorem Consistent.acquire {t : ThreadId} (h : r.Consistent) (hfree : r.holder = none) (call : Call) :
    { r.setPc t (.entered call) with holder := some t }.Consistent := by
  refine ⟨holdsLock_iff_setPc (by simp [Pc.holdsLock])
    (fun u hu => by simpa [hfree, Ne.symm hu] using h.holdsLock_iff u), h.replies,
    (fun hh => by cases hh), fun u hu => ?_⟩
  cases hu
  simpa [InFlight] using h.free hfree

/-- The owner of the lock takes a step of its body that `InFlight` allows. -/
theorem Consistent.body {t : ThreadId} (h : r.Consistent) (ht : r.holder = some t) {services : DiscoveredServices}
    {pc : Pc} (hflight : InFlight r.committed services pc) :
    { r.setPc t pc with services }.Consistent := by
  refine ⟨holdsLock_iff_setPc (by simp [hflight.holdsLock, ht]) (fun u _ => h.holdsLock_iff u),
    h.replies, fun hh => by simp [ht] at hh, fun u hu => ?_⟩
  obtain rfl : u = t := Option.some.inj (hu.symm.trans ht)
  simpa using hflight

/-- The owner returns: it releases the lock and its call and reply join the history. -/
theorem Consistent.release {t : ThreadId} (h : r.Consistent) {call : Call} {reply : Reply}
    (ht : r.pcs t = .returning call reply) :
    { r.setPc t .idle with holder := none, history := r.history ++ [(call, reply)] }.Consistent := by
  have hholder : r.holder = some t := (h.holdsLock_iff t).1 (by simp [ht, Pc.holdsLock])
  have hflight : perform r.committed call = (r.services, reply) := by
    simpa [ht, InFlight] using h.inFlight t hholder
  simp only [committed] at hflight
  refine ⟨holdsLock_iff_setPc (by simp [Pc.holdsLock])
    (fun u hu => by simpa [hholder, Ne.symm hu] using h.holdsLock_iff u), ?_, fun _ => ?_,
    fun u hu => nomatch hu⟩
  · simp [performAll_append, h.replies, hflight]
  · simp [committed, performAll_append, hflight]

/-- Every move keeps the invariant. -/
theorem Consistent.step (h : r.Consistent) (t : ThreadId) (move : Move) : (r.step t move).Consistent := by
  have hholder : (r.pcs t).holdsLock = true → r.holder = some t := (h.holdsLock_iff t).1
  unfold Shared.step
  split
  next heq => exact h.setPc_outside (by simp [heq, Pc.holdsLock]) rfl
  next heq =>
    split_ifs with hfree
    · exact h.acquire hfree _
    · exact h
  next call heq =>
    have ht := hholder (by simp [heq, Pc.holdsLock])
    have hs : r.services = r.committed := by simpa [heq, InFlight] using h.inFlight t ht
    rw [hs]
    exact h.body ht (inFlight_enter _ _)
  next info stage updated heq =>
    have ht := hholder (by simp [heq, Pc.holdsLock])
    split
    next services pc hstep =>
      exact h.body ht (inFlight_mergeStep (by simpa [heq] using h.inFlight t ht) hstep)
    next => exact h
  next heq => exact h.release heq
  next => exact h

theorem Consistent.steps (h : r.Consistent) (schedule : List (ThreadId × Move)) :
    (r.steps schedule).Consistent := by
  induction schedule generalizing r with
  | nil => exact h
  | cons move schedule ih => exact ih (h.step move.1 move.2)

theorem consistent_runSchedule (schedule : List (ThreadId × Move)) :
    (runSchedule schedule).Consistent :=
  consistent_init.steps schedule

/-- While `t` owns the lock, another thread can only call a method and wait: its move leaves the
map, the owner, the history and where `t` stands as they were. -/
theorem Consistent.step_of_ne_holder (h : r.Consistent) {t u : ThreadId} (ht : r.holder = some t)
    (hu : u ≠ t) (move : Move) :
    (r.step u move).services = r.services ∧ (r.step u move).holder = r.holder ∧
      (r.step u move).history = r.history ∧ (r.step u move).pcs t = r.pcs t := by
  have hout : (r.pcs u).holdsLock = false := by
    simpa [ht, Ne.symm hu] using (h.holdsLock_iff u).not
  unfold Shared.step
  split <;> simp_all [Pc.holdsLock, Ne.symm hu]

/-- A thread that has not moved is outside the registry. -/
theorem pcs_runSchedule_of_not_mem (schedule : List (ThreadId × Move)) {u : ThreadId}
    (h : ∀ move ∈ schedule, move.1 ≠ u) : (runSchedule schedule).pcs u = .idle :=
  steps_pcs_of_not_mem schedule h init

/-! ## The owner of the lock never waits -/

/-- Thread `t` brings its call `call` to the `return` by moves of its own, and no call returns
meanwhile. -/
def ReachesReturn (r : Shared) (t : ThreadId) (call : Call) : Prop :=
  ∃ moves : List Move, ∃ reply,
    (r.steps (moves.map fun move => (t, move))).pcs t = .returning call reply ∧
      (r.steps (moves.map fun move => (t, move))).history = r.history

theorem ReachesReturn.of_step {t : ThreadId} {move : Move} {call : Call}
    (hhist : (r.step t move).history = r.history) (h : (r.step t move).ReachesReturn t call) :
    r.ReachesReturn t call := by
  obtain ⟨moves, reply, hpc, hh⟩ := h
  exact ⟨move :: moves, reply, hpc, hh.trans hhist⟩

section Merging

variable {t : ThreadId} {info : ServiceInfo} {updated : Bool}

/-- Inside the merge branch the record is present under the key, and the loop has visited only
incoming addresses. -/
theorem Consistent.key_merging (h : r.Consistent) {stage : MergeStage}
    (hpc : r.pcs t = .merging info stage updated) :
    stage.Within info ∧ ∃ current, r.services.lookup (fqName info) = some current := by
  have hflight := h.inFlight t ((h.holdsLock_iff t).1 (by simp [hpc, Pc.holdsLock]))
  rw [hpc] at hflight
  obtain ⟨hwithin, current, -, hs, -⟩ := hflight
  exact ⟨hwithin, _, by rw [hs, Finmap.lookup_insert]⟩

theorem Consistent.reachesReturn_attributes (h : r.Consistent)
    (hpc : r.pcs t = .merging info .attributes updated) :
    r.ReachesReturn t (.serviceUpdated info) := by
  obtain ⟨-, current, hkey⟩ := h.key_merging hpc
  refine ⟨[.next], ?_⟩
  simp [Shared.steps, Shared.step, hpc, mergeStep, writeIfChanged, hkey]

theorem Consistent.reachesReturn_port (h : r.Consistent)
    (hpc : r.pcs t = .merging info .port updated) :
    r.ReachesReturn t (.serviceUpdated info) := by
  obtain ⟨-, current, hkey⟩ := h.key_merging hpc
  have hstep : (∃ updated', (r.step t .next).pcs t = .merging info .attributes updated') ∧
      (r.step t .next).history = r.history := by
    simp [Shared.step, hpc, mergeStep, writeIfChanged, hkey]
  obtain ⟨⟨updated', hpc'⟩, hhist⟩ := hstep
  exact .of_step hhist ((h.step t .next).reachesReturn_attributes hpc')

/-- The loop of `ServiceUpdated` ends after one turn per incoming address not yet visited. -/
theorem Consistent.reachesReturn_v6 (n : ℕ) :
    ∀ {r : Shared} {visited : Finset IPv6Address} {updated : Bool},
      (info.v6Addresses \ visited).card = n → r.Consistent →
        r.pcs t = .merging info (.v6 visited) updated → r.ReachesReturn t (.serviceUpdated info) := by
  induction n with
  | zero =>
      intro r visited updated hcard h hpc
      obtain ⟨hwithin, -⟩ := h.key_merging hpc
      have hdone : visited = info.v6Addresses := Finset.Subset.antisymm hwithin
        (Finset.sdiff_eq_empty_iff_subset.1 (Finset.card_eq_zero.1 hcard))
      have hstep : (r.step t .next).pcs t = .merging info .port updated ∧
          (r.step t .next).history = r.history := by
        simp [Shared.step, hpc, mergeStep, hdone]
      exact .of_step hstep.2 ((h.step t .next).reachesReturn_port hstep.1)
  | succ n ih =>
      intro r visited updated hcard h hpc
      have hpos : 0 < (info.v6Addresses \ visited).card := by omega
      obtain ⟨address, haddress⟩ := Finset.card_pos.1 hpos
      obtain ⟨hin, hnew⟩ := Finset.mem_sdiff.1 haddress
      obtain ⟨-, current, hkey⟩ := h.key_merging hpc
      have hstep : (∃ updated', (r.step t (.visit address)).pcs t =
            .merging info (.v6 (insert address visited)) updated') ∧
          (r.step t (.visit address)).history = r.history := by
        simp [Shared.step, hpc, mergeStep, writeIfChanged, hkey, hin, hnew]
      obtain ⟨⟨updated', hpc'⟩, hhist⟩ := hstep
      have hcard' : (info.v6Addresses \ insert address visited).card = n := by
        rw [Finset.sdiff_insert, Finset.card_erase_of_mem haddress, hcard, Nat.add_sub_cancel]
      exact .of_step hhist (ih hcard' (h.step t _) hpc')

theorem Consistent.reachesReturn_v4 (h : r.Consistent)
    (hpc : r.pcs t = .merging info .v4 updated) :
    r.ReachesReturn t (.serviceUpdated info) := by
  obtain ⟨-, current, hkey⟩ := h.key_merging hpc
  have hstep : (∃ updated', (r.step t .next).pcs t = .merging info (.v6 ∅) updated') ∧
      (r.step t .next).history = r.history := by
    simp [Shared.step, hpc, mergeStep, writeIfChanged, hkey]
  obtain ⟨⟨updated', hpc'⟩, hhist⟩ := hstep
  exact .of_step hhist (Consistent.reachesReturn_v6 _ rfl (h.step t .next) hpc')

end Merging

/-- The first step of a body either returns at once or enters the merge branch of
`ServiceUpdated`. -/
theorem enter_snd_cases (services : DiscoveredServices) (call : Call) :
    (∃ reply, (enter services call).2 = .returning call reply) ∨
      ∃ info, call = .serviceUpdated info ∧ (enter services call).2 = .merging info .v4 false := by
  cases call with
  | serviceUpdated info =>
      cases h : services.lookup (fqName info) <;> simp [enter, h]
  | _ => simp [enter]

/-- The owner of the lock brings its call to the `return` by its own moves. -/
theorem Consistent.reachesReturn (h : r.Consistent) {t : ThreadId} (ht : r.holder = some t) :
    ∃ call, (r.pcs t).call? = some call ∧ r.ReachesReturn t call := by
  have hlock : (r.pcs t).holdsLock = true := (h.holdsLock_iff t).2 ht
  cases hpc : r.pcs t with
  | idle | locking => simp [hpc, Pc.holdsLock] at hlock
  | returning call reply => exact ⟨call, rfl, [], reply, hpc, rfl⟩
  | merging info stage updated =>
      refine ⟨_, rfl, ?_⟩
      cases stage with
      | v4 => exact h.reachesReturn_v4 hpc
      | v6 visited => exact Consistent.reachesReturn_v6 _ rfl h hpc
      | port => exact h.reachesReturn_port hpc
      | attributes => exact h.reachesReturn_attributes hpc
  | entered call =>
      refine ⟨call, rfl, ?_⟩
      have hstep : (r.step t .next).pcs t = (enter r.services call).2 ∧
          (r.step t .next).history = r.history := by
        simp [Shared.step, hpc]
      refine .of_step hstep.2 ?_
      rcases enter_snd_cases r.services call with ⟨reply, hreply⟩ | ⟨info, rfl, hmerge⟩
      · exact ⟨[], reply, hstep.1.trans hreply, rfl⟩
      · exact (h.step t .next).reachesReturn_v4 (hstep.1.trans hmerge)

/-- The owner of the lock finishes its call by its own moves, and the call returns and writes
what the atomic call does on the map the returned calls left. -/
theorem Consistent.finishes (h : r.Consistent) {t : ThreadId} (ht : r.holder = some t) :
    ∃ call, (r.pcs t).call? = some call ∧ ∃ moves : List Move,
      let r' := r.steps (moves.map fun move => (t, move))
      r'.holder = none ∧ r'.pcs t = .idle ∧
        r'.history = r.history ++ [(call, (perform r.committed call).2)] ∧
        r'.services = (perform r.committed call).1 := by
  obtain ⟨call, hcall, moves, reply, hpc, hhist⟩ := h.reachesReturn ht
  refine ⟨call, hcall, moves ++ [.next], ?_⟩
  have h₁ := h.steps (moves.map fun move => (t, move))
  have hflight := h₁.inFlight t ((h₁.holdsLock_iff t).1 (by simp [hpc, Pc.holdsLock]))
  rw [hpc] at hflight
  simp only [InFlight, committed, hhist] at hflight
  intro r'
  simp only [r', List.map_append, steps_append]
  generalize r.steps (moves.map fun move => (t, move)) = r₁ at hpc hhist hflight
  simp [steps_cons, steps_nil, Shared.step, hpc, hhist, committed, hflight]

/-- The calls pending on threads other than `t` are the same in two states that agree on where
those threads stand. -/
theorem filterMap_call?_of_pcs_eq {r' : Shared} {t : ThreadId} {threads : List ThreadId}
    (ht : t ∉ threads) (h : ∀ v ≠ t, r'.pcs v = r.pcs v) :
    threads.filterMap (fun v => (r'.pcs v).call?) = threads.filterMap fun v => (r.pcs v).call? :=
  List.filterMap_congr fun v hv => by rw [h v fun hvt => ht (hvt ▸ hv)]

/-- With the lock free, the threads of `threads` take it one after the other and return every
pending call, each once. -/
theorem Consistent.drain_free (threads : List ThreadId) :
    ∀ {r : Shared}, r.Consistent → r.holder = none → threads.Nodup →
      (∀ u ∉ threads, r.pcs u = .idle) →
      ∃ schedule returned, (∀ u, (r.steps schedule).pcs u = .idle) ∧
        (r.steps schedule).holder = none ∧ (r.steps schedule).history = r.history ++ returned ∧
        (returned.map Prod.fst).Perm (threads.filterMap fun u => (r.pcs u).call?) := by
  induction threads with
  | nil =>
      intro r _ hfree _ hidle
      exact ⟨[], [], fun u => hidle u (List.not_mem_nil u), hfree, by simp [steps_nil], by simp⟩
  | cons u us ih =>
      intro r h hfree hnodup hidle
      obtain ⟨hu, hnodup⟩ := List.nodup_cons.1 hnodup
      have hout : (r.pcs u).holdsLock = false := by
        simpa [hfree] using (h.holdsLock_iff u).not
      cases hpc : r.pcs u with
      | idle =>
          obtain ⟨schedule, returned, hall, hholder, hhist, hperm⟩ := ih h hfree hnodup
            fun v hv => if hvu : v = u then hvu ▸ hpc else hidle v (by simp [hvu, hv])
          exact ⟨schedule, returned, hall, hholder, hhist, by simpa [hpc, Pc.call?] using hperm⟩
      | locking call =>
          have h₁ := h.step u .next
          have hr₁ : (r.step u .next).holder = some u ∧ (r.step u .next).pcs u = .entered call ∧
              (r.step u .next).history = r.history := by
            simp [Shared.step, hpc, hfree]
          obtain ⟨call', hcall, moves, hholder₂, hpc₂, hhist₂, -⟩ := h₁.finishes hr₁.1
          obtain rfl : call = call' := by simpa [hr₁.2.1, Pc.call?] using hcall
          have hother : ∀ v ≠ u,
              ((r.step u .next).steps (moves.map fun move => (u, move))).pcs v = r.pcs v :=
            fun v hv => by
              rw [steps_pcs_of_not_mem _ (by simp [Ne.symm hv]), step_pcs_of_ne _ _ hv]
          obtain ⟨schedule, returned, hall, hholder, hhist, hperm⟩ :=
            ih (h₁.steps _) hholder₂ hnodup fun v hv =>
              if hvu : v = u then hvu ▸ hpc₂ else (hother v hvu).trans (hidle v (by simp [hvu, hv]))
          rw [filterMap_call?_of_pcs_eq hu hother] at hperm
          refine ⟨(u, .next) :: moves.map (fun move => (u, move)) ++ schedule,
            (call, (perform (r.step u .next).committed call).2) :: returned, ?_⟩
          simp only [List.cons_append, steps_cons, steps_append]
          refine ⟨hall, hholder, ?_, by simpa [hpc, Pc.call?] using hperm⟩
          rw [hhist, hhist₂, hr₁.2.2]
          simp
      | entered | merging | returning => simp [hpc, Pc.holdsLock] at hout

/-- From every consistent state the threads can return every pending call, each once: the
owner of the lock first, then the waiting threads one after the other. -/
theorem Consistent.drain (h : r.Consistent) (threads : List ThreadId) (hnodup : threads.Nodup)
    (hidle : ∀ u ∉ threads, r.pcs u = .idle) :
    ∃ schedule returned, (∀ u, (r.steps schedule).pcs u = .idle) ∧
      (r.steps schedule).holder = none ∧ (r.steps schedule).history = r.history ++ returned ∧
      (returned.map Prod.fst).Perm (threads.filterMap fun u => (r.pcs u).call?) := by
  cases hholder : r.holder with
  | none => exact Consistent.drain_free threads h hholder hnodup hidle
  | some t =>
      obtain ⟨call, hcall, moves, hholder₁, hpc₁, hhist₁, -⟩ := h.finishes hholder
      have ht : t ∈ threads := by
        by_contra hnot
        have hlock := (h.holdsLock_iff t).2 hholder
        simp [hidle t hnot, Pc.holdsLock] at hlock
      have hother : ∀ v ≠ t, (r.steps (moves.map fun move => (t, move))).pcs v = r.pcs v :=
        fun v hv => steps_pcs_of_not_mem _ (by simp [Ne.symm hv]) r
      obtain ⟨schedule, returned, hall, hholder₂, hhist₂, hperm⟩ :=
        Consistent.drain_free (threads.erase t) (h.steps _) hholder₁ (hnodup.erase t)
          fun v hv => if hvt : v = t then hvt ▸ hpc₁ else
            (hother v hvt).trans (hidle v fun hmem => hv ((List.mem_erase_of_ne hvt).2 hmem))
      rw [filterMap_call?_of_pcs_eq hnodup.not_mem_erase hother] at hperm
      refine ⟨moves.map (fun move => (t, move)) ++ schedule,
        (call, (perform r.committed call).2) :: returned, ?_⟩
      simp only [steps_append]
      refine ⟨hall, hholder₂, by rw [hhist₂, hhist₁]; simp, (hperm.cons call).trans ?_⟩
      have hcons := ((List.perm_cons_erase ht).filterMap fun v => (r.pcs v).call?).symm
      simpa [hcall] using hcons

/-! ## Over every schedule -/

/-- No two threads are inside a method body at once, the merge branch of `ServiceUpdated`
included. -/
theorem mutual_exclusion (schedule : List (ThreadId × Move)) (t u : ThreadId)
    (ht : ((runSchedule schedule).pcs t).holdsLock = true)
    (hu : ((runSchedule schedule).pcs u).holdsLock = true) : t = u := by
  have h := consistent_runSchedule schedule
  exact Option.some.inj (((h.holdsLock_iff t).1 ht).symm.trans ((h.holdsLock_iff u).1 hu))

theorem mutual_exclusion_one_caller :
    ((runSchedule [(0, .call .forAllServices), (0, .next)]).pcs 0).holdsLock = true ∧ 0 = 0 :=
  ⟨by decide, mutual_exclusion [(0, .call .forAllServices), (0, .next)] 0 0 (by decide) (by decide)⟩

/-- While a thread owns the lock, no move of any other thread changes the map, the owner, the
history or where the owner stands: the other threads can only call a method and wait. -/
theorem others_wait (schedule : List (ThreadId × Move)) (t u : ThreadId) (move : Move)
    (ht : (runSchedule schedule).holder = some t) (hu : u ≠ t) :
    let r := runSchedule schedule
    (r.step u move).services = r.services ∧ (r.step u move).holder = r.holder ∧
      (r.step u move).history = r.history ∧ (r.step u move).pcs t = r.pcs t :=
  (consistent_runSchedule schedule).step_of_ne_holder ht hu move

theorem others_wait_blocked_reader :
    let schedule : List (ThreadId × Move) :=
      [(0, .call .forAllServices), (0, .next), (1, .call (.findInstance "_adb._tcp" "dev"))]
    (runSchedule schedule).holder = some 0 ∧ 1 ≠ 0 ∧
      let r := runSchedule schedule
      (r.step 1 .next).services = r.services ∧ (r.step 1 .next).holder = r.holder ∧
        (r.step 1 .next).history = r.history ∧ (r.step 1 .next).pcs 0 = r.pcs 0 :=
  ⟨by decide, by decide, others_wait
    [(0, .call .forAllServices), (0, .next), (1, .call (.findInstance "_adb._tcp" "dev"))] 0 1 .next
    (by decide) (by decide)⟩

/-- The calls are linearizable at the release of the lock: every reply a thread received, the
copy of `FindInstance` and the records `ForAllServices` passed to its callback included, is the
reply of the atomic call on the registry that the mutations returned before it leave, so no
reader sees a record half merged; and whenever the lock is free the map is that registry after
all the returned mutations. -/
theorem runSchedule_linearizable (schedule : List (ThreadId × Move)) :
    let r := runSchedule schedule
    (∀ pre call reply post, r.history = pre ++ (call, reply) :: post →
      reply = (perform (run (pre.filterMap fun entry => entry.1.event?)) call).2) ∧
    (r.holder = none → r.services = run (r.history.filterMap fun entry => entry.1.event?)) := by
  have h := consistent_runSchedule schedule
  refine ⟨fun pre call reply post hsplit => reply_eq_of_performAll h.replies hsplit,
    fun hfree => ?_⟩
  rw [h.free hfree, committed, performAll_fst, List.filterMap_map]
  rfl

/-- The owner of the lock finishes its call by its own moves alone: it never waits for another
thread inside a body. The call returns the reply of the atomic call on the map the returned
calls left, leaves the map of that atomic call, and frees the lock. -/
theorem holder_completes (schedule : List (ThreadId × Move)) (t : ThreadId)
    (ht : (runSchedule schedule).holder = some t) :
    ∃ call, ((runSchedule schedule).pcs t).call? = some call ∧ ∃ moves : List Move,
      let r := runSchedule schedule
      let r' := r.steps (moves.map fun move => (t, move))
      r'.holder = none ∧ r'.pcs t = .idle ∧
        r'.history = r.history ++ [(call, (perform r.committed call).2)] ∧
        r'.services = (perform r.committed call).1 :=
  (consistent_runSchedule schedule).finishes ht

theorem holder_completes_one_caller :
    (runSchedule [(0, .call .forAllServices), (0, .next)]).holder = some 0 ∧
      ∃ call, ((runSchedule [(0, .call .forAllServices), (0, .next)]).pcs 0).call? = some call ∧
        ∃ moves : List Move,
          let r := runSchedule [(0, .call .forAllServices), (0, .next)]
          let r' := r.steps (moves.map fun move => (0, move))
          r'.holder = none ∧ r'.pcs 0 = .idle ∧
            r'.history = r.history ++ [(call, (perform r.committed call).2)] ∧
            r'.services = (perform r.committed call).1 :=
  ⟨by decide, holder_completes [(0, .call .forAllServices), (0, .next)] 0 (by decide)⟩

/-- No call is stuck: from every state a schedule reaches, some further moves return every
pending call, each exactly once, and leave every thread outside the registry with the lock
free. `threads` lists the threads that have moved. -/
theorem all_calls_return (schedule : List (ThreadId × Move)) (threads : List ThreadId)
    (hnodup : threads.Nodup) (hthreads : ∀ move ∈ schedule, move.1 ∈ threads) :
    ∃ more returned,
      let r := runSchedule schedule
      let r' := r.steps more
      (∀ u, r'.pcs u = .idle) ∧ r'.holder = none ∧ r'.history = r.history ++ returned ∧
        (returned.map Prod.fst).Perm (threads.filterMap fun u => (r.pcs u).call?) :=
  (consistent_runSchedule schedule).drain threads hnodup fun _ hu =>
    pcs_runSchedule_of_not_mem schedule fun move hmove hmu => hu (hmu ▸ hthreads move hmove)

theorem all_calls_return_two_callers :
    let schedule : List (ThreadId × Move) :=
      [(0, .call .forAllServices), (1, .call (.findInstance "_adb._tcp" "dev")), (0, .next)]
    [0, 1].Nodup ∧ (∀ move ∈ schedule, move.1 ∈ [0, 1]) ∧
      ∃ more returned,
        let r := runSchedule schedule
        let r' := r.steps more
        (∀ u, r'.pcs u = .idle) ∧ r'.holder = none ∧ r'.history = r.history ++ returned ∧
          (returned.map Prod.fst).Perm ([0, 1].filterMap fun u => (r.pcs u).call?) :=
  ⟨by decide, by decide, all_calls_return
    [(0, .call .forAllServices), (1, .call (.findInstance "_adb._tcp" "dev")), (0, .next)] [0, 1]
    (by decide) (by decide)⟩

/-- Concurrent `ServiceUpdated` calls on records with pairwise distinct keys all return, and the
registry then holds each of the records under its key, whatever order the calls took the lock
in: from every state a schedule reaches in which the calls made so far, returned or pending, are
these updates, some further moves leave every thread outside the registry with every record
stored. -/
theorem concurrent_updates_present (schedule : List (ThreadId × Move)) (threads : List ThreadId)
    (hnodup : threads.Nodup) (hthreads : ∀ move ∈ schedule, move.1 ∈ threads)
    (infos : List ServiceInfo) (hkeys : (infos.map fqName).Nodup)
    (hcalls : ((runSchedule schedule).history.map Prod.fst ++
      threads.filterMap fun u => ((runSchedule schedule).pcs u).call?).Perm
        (infos.map Call.serviceUpdated)) :
    ∃ more, let r' := (runSchedule schedule).steps more
      (∀ u, r'.pcs u = .idle) ∧ ∀ info ∈ infos, r'.services.lookup (fqName info) = some info := by
  have h := consistent_runSchedule schedule
  obtain ⟨more, returned, hidle, hfree, hhist, hreturned⟩ := h.drain threads hnodup fun u hu =>
    pcs_runSchedule_of_not_mem schedule fun move hmove hmu => hu (hmu ▸ hthreads move hmove)
  refine ⟨more, hidle, fun info hinfo => ?_⟩
  have hperm : ((runSchedule schedule).steps more).history.map Prod.fst |>.Perm
      (infos.map Call.serviceUpdated) := by
    rw [hhist, List.map_append]
    exact (hreturned.append_left _).trans hcalls
  rw [(h.steps more).free hfree, committed, performAll_fst]
  exact lookup_run_of_perm_updates hkeys hperm hinfo

theorem concurrent_updates_present_two_devices :
    let first : ServiceInfo := ⟨"foo", "_adb._tcp", none, ∅, 5555, ∅⟩
    let second : ServiceInfo := ⟨"baz", "_adb._tcp", none, ∅, 5555, ∅⟩
    let schedule : List (ThreadId × Move) :=
      [(0, .call (.serviceUpdated first)), (1, .call (.serviceUpdated second)), (0, .next)]
    [0, 1].Nodup ∧ (∀ move ∈ schedule, move.1 ∈ [0, 1]) ∧ ([first, second].map fqName).Nodup ∧
      ((runSchedule schedule).history.map Prod.fst ++
        [0, 1].filterMap fun u => ((runSchedule schedule).pcs u).call?).Perm
          ([first, second].map Call.serviceUpdated) ∧
      ∃ more, let r' := (runSchedule schedule).steps more
        (∀ u, r'.pcs u = .idle) ∧
          ∀ info ∈ [first, second], r'.services.lookup (fqName info) = some info := by
  intro first second schedule
  exact ⟨by decide, by decide, by decide, by decide, concurrent_updates_present schedule [0, 1]
    (by decide) (by decide) [first, second] (by decide) (by decide)⟩

end Shared

end Adb.Mdns.DiscoveredServices
