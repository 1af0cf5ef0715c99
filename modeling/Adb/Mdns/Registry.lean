import Adb.Mdns.DiscoveredServices

/-!
# Runs of the registry

The registry as a state machine. `applyEvent` is the mutator that `OnServiceReceiverResult`
calls for an event, and `run` applies a sequence of events to the empty registry. What one
event does to the record under its own key is `entryAfter`, and `lookup_applyEvent` says that
every other key is left alone. Two results hold over every run:

* `registry_per_key_law`: the record under a key depends only on the events with that key, as
  `keyEntry` describes them in the words of the specification, so two interleavings that keep
  the order of the events on each key end in the same registry;
* `registry_keys_by_fqName`: every record is stored under its own fully qualified name. Two
  pairs of instance and service can share that name (`"a.b"` with `"c"` and `"a"` with
  `"b.c"`), so a lookup may return a record of another pair; it cannot when neither instance
  name has a dot.
-/

namespace Adb.Mdns.DiscoveredServices

/-- An event as the discovery backend reports it: its kind and the record it carries. -/
abbrev Event := ServiceInfoState × ServiceInfo

/-- The registry mutator that `OnServiceReceiverResult` calls for an event. -/
def applyEvent (services : DiscoveredServices) : Event → DiscoveredServices
  | (.created, info) => serviceCreated services info
  | (.updated, info) => (serviceUpdated services info).1
  | (.deleted, info) => serviceDeleted services info

/-- The registry after a sequence of events, starting from the empty registry. -/
def run (events : List Event) : DiscoveredServices :=
  events.foldl applyEvent ∅

/-- What an event leaves under its own key, given what was stored there. -/
def entryAfter : Event → Option ServiceInfo → Option ServiceInfo
  | (.created, info), _ => some info
  | (.updated, info), none => some info
  | (.updated, info), some current => some (mergeService info current).1
  | (.deleted, _), _ => none

/-- An event changes at most the record under its own key. -/
theorem lookup_applyEvent (services : DiscoveredServices) (event : Event) (key : String) :
    (applyEvent services event).lookup key =
      if key = fqName event.2 then entryAfter event (services.lookup key)
      else services.lookup key := by
  obtain ⟨_ | _ | _, info⟩ := event
  · simp [applyEvent, entryAfter, lookup_serviceCreated]
  · rw [applyEvent, lookup_serviceUpdated]
    split_ifs <;> cases services.lookup key <;> rfl
  · simp [applyEvent, entryAfter, lookup_serviceDeleted]

theorem run_append_event (events : List Event) (event : Event) :
    run (events ++ [event]) = applyEvent (run events) event := by
  simp [run]

/-! ## The per-key law -/

/-- The longest prefix with no element satisfying `p`, followed by the first element that does
satisfy it. -/
def takeThrough {α : Type} (p : α → Bool) : List α → List α
  | [] => []
  | a :: as => if p a then [a] else a :: takeThrough p as

/-- The events after the last deletion, or all of them when there is none. -/
def afterLastDeleted (events : List Event) : List Event :=
  (events.reverse.takeWhile (·.1 != .deleted)).reverse

/-- The events from the last creation on, or all of them when there is none. -/
def fromLastCreated (events : List Event) : List Event :=
  (takeThrough (·.1 == .created) events.reverse).reverse

/-- The record under a key after the events on that key, in the words of the specification.
Let `L` be the events after the last deletion. If `L` is empty the key is absent. Otherwise
`e₀` is the last creation in `L`, or the first event of `L` when it has none, and `e₁ … eₙ`
are the updates after `e₀`. The record has the instance and service of `e₀`, the last IPv4
address present among `e₀ … eₙ`, the union of their IPv6 sets, and the port and attributes of
the last of them. -/
def keyEntry (events : List Event) : Option ServiceInfo :=
  match fromLastCreated (afterLastDeleted events) with
  | [] => none
  | (_, e₀) :: rest =>
      let es := e₀ :: (rest.filter (·.1 == .updated)).map Prod.snd
      let last := es.getLast (List.cons_ne_nil _ _)
      some { e₀ with
        v4Address := (es.filterMap (·.v4Address)).getLast?
        v6Addresses := es.foldl (fun addresses e => addresses ∪ e.v6Addresses) ∅
        port := last.port
        attributes := last.attributes }

theorem afterLastDeleted_append (events : List Event) (event : Event) :
    afterLastDeleted (events ++ [event]) =
      if event.1 = .deleted then [] else afterLastDeleted events ++ [event] := by
  by_cases h : event.1 = .deleted <;> simp [afterLastDeleted, List.takeWhile_cons, h]

theorem fromLastCreated_append (events : List Event) (event : Event) :
    fromLastCreated (events ++ [event]) =
      if event.1 = .created then [event] else fromLastCreated events ++ [event] := by
  by_cases h : event.1 = .created <;> simp [fromLastCreated, takeThrough, h]

/-- `keyEntry` follows the events one at a time, as `entryAfter` does. -/
theorem keyEntry_append (events : List Event) (event : Event) :
    keyEntry (events ++ [event]) = entryAfter event (keyEntry events) := by
  obtain ⟨_ | _ | _, info⟩ := event
  · obtain ⟨i, s, v4, v6, p, a⟩ := info
    cases v4 <;> simp [keyEntry, afterLastDeleted_append, fromLastCreated_append, entryAfter]
  · rw [keyEntry, afterLastDeleted_append, if_neg nofun, fromLastCreated_append, if_neg nofun,
      keyEntry]
    cases hL : fromLastCreated (afterLastDeleted events) with
    | nil =>
      obtain ⟨i, s, v4, v6, p, a⟩ := info
      cases v4 <;> simp [entryAfter]
    | cons first rest =>
      cases hv : info.v4Address <;> simp [entryAfter, mergeService_fst, hv]
  · simp [keyEntry, afterLastDeleted_append, fromLastCreated, takeThrough, entryAfter]

/-- The record under a key after a run is `keyEntry` of the events with that key. -/
theorem lookup_run (events : List Event) (key : String) :
    (run events).lookup key = keyEntry (events.filter fun event => fqName event.2 = key) := by
  induction events using List.reverseRecOn with
  | nil => simp [run, keyEntry, afterLastDeleted, fromLastCreated, takeThrough]
  | append_singleton events event ih =>
      rw [run_append_event, lookup_applyEvent, List.filter_append]
      by_cases hk : key = fqName event.2
      · subst hk
        simp [keyEntry_append, ih]
      · simp [hk, Ne.symm hk, ih]

/-- The record under a key depends only on the events with that key, as `keyEntry` says, and
so two sequences of events that agree key by key end in the same registry: any interleaving
of producers that keeps the order of the events on each key. -/
theorem registry_per_key_law :
    (∀ (events : List Event) (key : String),
      (run events).lookup key = keyEntry (events.filter fun event => fqName event.2 = key)) ∧
    (∀ events₁ events₂ : List Event,
      (∀ key, events₁.filter (fun event => fqName event.2 = key) =
        events₂.filter (fun event => fqName event.2 = key)) →
      run events₁ = run events₂) :=
  ⟨lookup_run, fun _ _ h => Finmap.ext_lookup fun key => by rw [lookup_run, lookup_run, h]⟩

/-! ## Calls serialised by the mutex

Every method holds `services_mutex_` for its whole body, so calls made concurrently take effect
one after the other, in some order. For updates of distinct keys the order does not matter. -/

/-- With pairwise distinct keys, the records with a given key are the one `find?` returns, or
none. -/
theorem filter_fqName_eq_find? {infos : List ServiceInfo} (hkeys : (infos.map fqName).Nodup)
    (key : String) :
    infos.filter (fun info => fqName info = key) =
      (infos.find? fun info => fqName info = key).toList := by
  induction infos with
  | nil => rfl
  | cons a infos ih =>
      rw [List.map_cons, List.nodup_cons] at hkeys
      by_cases ha : fqName a = key
      · have hnone : infos.filter (fun info => fqName info = key) = [] :=
          List.filter_eq_nil_iff.2 fun b hb hkey => hkeys.1 (by
            rw [ha, ← of_decide_eq_true hkey]
            exact List.mem_map_of_mem fqName hb)
        simp [ha, hnone]
      · simp [ha, ih hkeys.2]

theorem keyEntry_updated_toList (entry : Option ServiceInfo) :
    keyEntry (entry.toList.map fun info => (.updated, info)) = entry := by
  obtain _ | ⟨i, s, v4, v6, p, a⟩ := entry
  · rfl
  · cases v4 <;> simp [keyEntry, afterLastDeleted, fromLastCreated, takeThrough]

theorem lookup_run_updates {infos : List ServiceInfo} (hkeys : (infos.map fqName).Nodup)
    (key : String) :
    (run (infos.map fun info => (.updated, info))).lookup key =
      infos.find? fun info => fqName info = key := by
  rw [lookup_run, List.filter_map, ← keyEntry_updated_toList (infos.find? _),
    ← filter_fqName_eq_find? hkeys]
  rfl

/-- After updates of records with pairwise distinct keys, each record is stored under its key. -/
theorem lookup_run_updates_of_mem {infos : List ServiceInfo} (hkeys : (infos.map fqName).Nodup)
    {info : ServiceInfo} (hinfo : info ∈ infos) :
    (run (infos.map fun info => (.updated, info))).lookup (fqName info) = some info := by
  have hmem : info ∈ infos.filter (fun i => fqName i = fqName info) :=
    List.mem_filter.2 ⟨hinfo, by simp⟩
  rw [filter_fqName_eq_find? hkeys] at hmem
  rw [lookup_run_updates hkeys]
  simpa using hmem

/-- Updates of records with pairwise distinct keys leave the same registry in every order of
the calls, and that registry holds each record under its key. -/
theorem updates_any_order {infos infos' : List ServiceInfo} (hperm : infos.Perm infos')
    (hkeys : (infos.map fqName).Nodup) :
    run (infos.map fun info => (.updated, info)) = run (infos'.map fun info => (.updated, info)) ∧
      ∀ info ∈ infos,
        (run (infos'.map fun info => (.updated, info))).lookup (fqName info) = some info := by
  have hkeys' : (infos'.map fqName).Nodup := ((hperm.map fqName).nodup_iff).1 hkeys
  have hfind : ∀ key, (infos.find? fun info => fqName info = key) =
      infos'.find? fun info => fqName info = key := fun key => by
    have h := hperm.filter (fun info => decide (fqName info = key))
    rw [filter_fqName_eq_find? hkeys, filter_fqName_eq_find? hkeys'] at h
    cases h₁ : infos.find? (fun info => fqName info = key) <;>
      cases h₂ : infos'.find? (fun info => fqName info = key) <;>
      simp_all [List.perm_singleton]
  refine ⟨Finmap.ext_lookup fun key => by
      rw [lookup_run_updates hkeys, lookup_run_updates hkeys', hfind], fun info hinfo => ?_⟩
  have hmem : info ∈ infos'.filter (fun i => fqName i = fqName info) :=
    List.mem_filter.2 ⟨hperm.mem_iff.1 hinfo, by simp⟩
  rw [filter_fqName_eq_find? hkeys'] at hmem
  rw [lookup_run_updates hkeys']
  simpa using hmem

/-- Two devices advertising the same service, updated in the two orders. -/
theorem updates_any_order_two_devices :
    let first : ServiceInfo := ⟨"foo", "bar", none, ∅, 5555, ∅⟩
    let second : ServiceInfo := ⟨"baz", "bar", none, ∅, 5555, ∅⟩
    [first, second].Perm [second, first] ∧ ([first, second].map fqName).Nodup ∧
      run ([first, second].map fun info => (.updated, info)) =
        run ([second, first].map fun info => (.updated, info)) ∧
      ∀ info ∈ [first, second],
        (run ([second, first].map fun info => (.updated, info))).lookup (fqName info) =
          some info :=
  ⟨List.Perm.swap _ _ _, by decide, updates_any_order (List.Perm.swap _ _ _) (by decide)⟩

/-! ## Keys -/

/-- Every record is stored under its own fully qualified name. -/
def KeysConsistent (services : DiscoveredServices) : Prop :=
  ∀ key stored, services.lookup key = some stored → fqName stored = key

theorem mergeService_instance (info current : ServiceInfo) :
    (mergeService info current).1.«instance» = current.«instance» := by
  rw [mergeService_fst]

theorem mergeService_service (info current : ServiceInfo) :
    (mergeService info current).1.service = current.service := by
  rw [mergeService_fst]

/-- What an event leaves under its key has that key as its name, when what was there had. -/
theorem fqName_of_entryAfter {event : Event} {current : Option ServiceInfo}
    {stored : ServiceInfo} (hcurrent : ∀ c, current = some c → fqName c = fqName event.2)
    (h : entryAfter event current = some stored) : fqName stored = fqName event.2 := by
  obtain ⟨_ | _ | _, info⟩ := event
  · cases h; rfl
  · cases current with
    | none => cases h; rfl
    | some c =>
        cases h
        simpa [fqName, mergeService_instance, mergeService_service] using hcurrent c rfl
  · cases h

theorem KeysConsistent.applyEvent {services : DiscoveredServices}
    (h : KeysConsistent services) (event : Event) :
    KeysConsistent (applyEvent services event) := by
  intro key stored hs
  rw [lookup_applyEvent] at hs
  split_ifs at hs with hk
  · subst hk
    exact fqName_of_entryAfter (h _) hs
  · exact h key stored hs

theorem keysConsistent_run (events : List Event) : KeysConsistent (run events) := by
  induction events using List.reverseRecOn with
  | nil => simp [KeysConsistent, run]
  | append_singleton events event ih => rw [run_append_event]; exact ih.applyEvent event

/-- Two lists that agree up to the first occurrence of `a` in each agree before it and after
it. -/
theorem append_cons_inj_of_not_mem_left {α : Type} {x₁ x₂ z₁ z₂ : List α} {a : α}
    (h₁ : a ∉ x₁) (h₂ : a ∉ x₂) (h : x₁ ++ a :: z₁ = x₂ ++ a :: z₂) : x₁ = x₂ ∧ z₁ = z₂ := by
  induction x₁ generalizing x₂ with
  | nil => cases x₂ <;> simp_all
  | cons b x₁ ih =>
      cases x₂ with
      | nil =>
          simp only [List.nil_append, List.cons_append, List.cons.injEq] at h
          exact absurd (h.1 ▸ List.mem_cons_self _ _) h₁
      | cons c x₂ =>
          simp only [List.cons_append, List.cons.injEq] at h
          obtain ⟨rfl, h⟩ := h
          obtain ⟨rfl, rfl⟩ := ih (List.not_mem_of_not_mem_cons h₁)
            (List.not_mem_of_not_mem_cons h₂) h
          exact ⟨rfl, rfl⟩

/-- A fully qualified name determines its pair when the instance name has no dot. -/
theorem eq_of_append_dot_eq {a b s t : String} (ha : '.' ∉ a.data) (hb : '.' ∉ b.data)
    (h : a ++ "." ++ s = b ++ "." ++ t) : a = b ∧ s = t := by
  have hdata := congrArg String.data h
  simp only [String.data_append, List.append_assoc] at hdata
  obtain ⟨hab, hst⟩ := append_cons_inj_of_not_mem_left ha hb hdata
  exact ⟨String.ext hab, String.ext hst⟩

/-- A lookup returns a record with the fully qualified name it asked for, which is the pair it
asked for when neither instance name has a dot. `ServiceUpdated` leaves every key but the fully
qualified name of its argument as it was, whether or not it held a record; a record it changes
has the argument's fully qualified name and keeps its own instance and service. -/
theorem registry_keys_by_fqName (events : List Event) :
    (∀ service inst r, findInstance (run events) service inst = some r →
      fqName r = inst ++ "." ++ service ∧
      ('.' ∉ inst.data → '.' ∉ r.«instance».data → r.«instance» = inst ∧ r.service = service)) ∧
    (∀ x key, key ≠ fqName x →
      (serviceUpdated (run events) x).1.lookup key = (run events).lookup key) ∧
    (∀ x key stored, (run events).lookup key = some stored →
      (serviceUpdated (run events) x).1.lookup key ≠ some stored →
      fqName stored = fqName x ∧
      ('.' ∉ stored.«instance».data → '.' ∉ x.«instance».data →
        stored.«instance» = x.«instance» ∧ stored.service = x.service) ∧
      ∃ merged, (serviceUpdated (run events) x).1.lookup key = some merged ∧
        merged.«instance» = stored.«instance» ∧ merged.service = stored.service) := by
  refine ⟨fun service inst r h => ?_, fun x key hk => by rw [lookup_serviceUpdated, if_neg hk],
    fun x key stored hs hchanged => ?_⟩
  · have hr := keysConsistent_run events _ _ h
    exact ⟨hr, fun hi hri => (eq_of_append_dot_eq hri hi hr).imp id id⟩
  · rw [lookup_serviceUpdated] at hchanged ⊢
    split_ifs at hchanged ⊢ with hk
    · have hr : fqName stored = fqName x := hk ▸ keysConsistent_run events _ _ hs
      refine ⟨hr, fun hstored hx => eq_of_append_dot_eq hstored hx hr, _, rfl, ?_⟩
      simp [hs, mergeService_instance, mergeService_service]
    · exact absurd hs hchanged

/-- `"a.b"` of service `"c"` and `"a"` of service `"b.c"` share the key `"a.b.c"`, so looking up
the second pair returns the record of the first. -/
theorem findInstance_returns_other_pair :
    ¬ ∀ (events : List Event) (service inst : String) (r : ServiceInfo),
      findInstance (run events) service inst = some r →
        r.service = service ∧ r.«instance» = inst := by
  intro h
  have hc := h [(.created, ⟨"a.b", "c", none, ∅, 0, ∅⟩)] "b.c" "a" ⟨"a.b", "c", none, ∅, 0, ∅⟩
    (by decide)
  exact absurd hc.1 (by decide)

end Adb.Mdns.DiscoveredServices
