import Adb.Mdns.TransportMdns

/-!
# Instance names

`mdns_parse_instance_name` of `client/mdns_utils.h` reads a textual service name such as
`name.service._tcp.local.` into its instance, service and transport. Its body is not among the
sources: it is modelled from the grammar of the design, and agrees with every case of
`client/mdns_utils_test.cpp`. The name is read from the right: one optional trailing dot, an
optional `.local` domain, a transport label `._tcp` or `._udp`, and then the service, the
segment after the last dot. A transport label alone is no name, and a name with neither a
domain nor a transport label is a bare instance name.

The section on what the parser accepts characterises the names it accepts and what it returns
for each: a bare name whole, and a well-formed name split into its parts, so that on the
well-formed names the parser is a round trip. The last section gives the parser to
`mdns_get_connect_service_info`, the lookup by name of `transport_mdns.cpp`.
-/

namespace Adb.Mdns

/-! ## Suffixes of character lists -/

theorem eq_append_of_dropSuffix? {l s p : List Char} (h : l.dropSuffix? s = some p) :
    l = p ++ s := by
  obtain ⟨s', he, hs⟩ := List.dropSuffix?_eq_some_iff.1 h
  rwa [← beq_iff_eq.1 hs]

theorem dropSuffix?_eq_none_iff {l s : List Char} : l.dropSuffix? s = none ↔ ¬s <:+ l := by
  constructor
  · rintro h ⟨p, rfl⟩
    rw [List.dropSuffix?_eq_some_iff.2 ⟨s, rfl, beq_self_eq_true s⟩] at h
    cases h
  · intro h
    cases hd : l.dropSuffix? s with
    | none => rfl
    | some p => exact absurd ⟨p, (eq_append_of_dropSuffix? hd).symm⟩ h

/-- A suffix of a known tail is dropped inside that tail; with the tail written out, `simp`
computes the rest. -/
theorem dropSuffix?_append_of_suffix {l s t : List Char} (h : t <:+ s) :
    (l ++ s).dropSuffix? t = some (l ++ s.take (s.length - t.length)) := by
  obtain ⟨u, rfl⟩ := h
  exact List.dropSuffix?_eq_some_iff.2 ⟨t, by simp, beq_self_eq_true t⟩

/-- Of two lists neither of which is a suffix of the other, one never ends the other's
extensions. -/
theorem dropSuffix?_append_of_not_suffix {l s t : List Char} (hst : ¬s <:+ t)
    (hts : ¬t <:+ s) : (l ++ s).dropSuffix? t = none :=
  dropSuffix?_eq_none_iff.2 fun h =>
    (List.suffix_or_suffix_of_suffix (List.suffix_append l s) h).elim hst hts

/-! ## The parser -/

/-- The transport labels of a service name. -/
def transportTypes : List String := ["_tcp", "_udp"]

/-- What may follow the transport label of a name: nothing, a dot, or the `local` domain,
with or without the trailing dot. -/
def domainSuffixes : List String := ["", ".", ".local", ".local."]

/-- The suffixes that make a name more than a bare instance name: the `local` domain or a
transport label, with or without a trailing dot. -/
def qualifiedSuffixes : List String :=
  [".local", ".local.", "._tcp", "._tcp.", "._udp", "._udp."]

/-- The name without one trailing dot, if it has one. -/
def stripTrailingDot (name : List Char) : List Char :=
  (name.dropSuffix? ['.']).getD name

/-- The name without the suffix `.transport`, and the label, for the transport label the name
ends with. -/
def consumeTransport (name : List Char) : Option (List Char × String) :=
  transportTypes.findSome? fun t => (name.dropSuffix? ('.' :: t.data)).map (·, t)

/-- The split at the last dot into a non-empty instance and a non-empty service. -/
def splitAtLastDot (name : List Char) (transport : String) : Option MdnsInstance :=
  match name.reverse.span (· != '.') with
  | (_, []) => none
  | (service, _ :: inst) =>
      if service = [] ∨ inst = [] then none
      else some ⟨⟨inst.reverse⟩, ⟨service.reverse⟩, transport⟩

/-- Modelled from the spec: `mdns_parse_instance_name`. After one optional trailing dot, a
name that ends with `.local` must have a transport label right before it; the part before the
label is split at its last dot into a non-empty instance and a non-empty service. A name that
is a transport label alone fails; a name with neither the domain nor a label is returned whole
as the instance. -/
def mdnsParseInstanceName (name : String) : Option MdnsInstance :=
  let body := stripTrailingDot name.data
  match body.dropSuffix? ".local".data, consumeTransport body with
  | some rest, _ =>
      (consumeTransport rest).bind fun (rest, transport) => splitAtLastDot rest transport
  | none, some (rest, transport) => splitAtLastDot rest transport
  | none, none => if body ∈ transportTypes.map String.data then none else some ⟨name, "", ""⟩

/-- A parse with a service: a non-empty instance, a non-empty service without a dot, and a
transport label. -/
def MdnsInstance.WellFormed (r : MdnsInstance) : Prop :=
  r.instanceName ≠ "" ∧ r.serviceName ≠ "" ∧ '.' ∉ r.serviceName.data ∧
    r.transportType ∈ transportTypes

instance (r : MdnsInstance) : Decidable r.WellFormed :=
  inferInstanceAs (Decidable (_ ∧ _ ∧ _ ∧ _))

/-- The name `instance.service.transport` followed by `domain`. -/
def MdnsInstance.fullName (r : MdnsInstance) (domain : String) : String :=
  r.instanceName ++ "." ++ r.serviceName ++ "." ++ r.transportType ++ domain

/-! ## The steps of the parser -/

theorem stripTrailingDot_append (name : List Char) :
    ∃ dot ∈ [[], ['.']], name = stripTrailingDot name ++ dot := by
  unfold stripTrailingDot
  cases h : name.dropSuffix? ['.'] with
  | none => exact ⟨[], by simp⟩
  | some p => exact ⟨['.'], by simp, eq_append_of_dropSuffix? h⟩

/-- A suffix that does not end with a dot ends the name without its trailing dot exactly when
it ends the name, or ends it before a last dot. -/
theorem suffix_stripTrailingDot_iff {s name : List Char} (hs : ¬['.'] <:+ s) (hne : s ≠ []) :
    s <:+ stripTrailingDot name ↔ s <:+ name ∨ s ++ ['.'] <:+ name := by
  unfold stripTrailingDot
  cases h : name.dropSuffix? ['.'] with
  | none =>
      have hdot := dropSuffix?_eq_none_iff.1 h
      exact ⟨.inl, fun h' => h'.resolve_right fun h'' =>
        hdot ((List.suffix_append s _).trans h'')⟩
  | some p =>
      rw [eq_append_of_dropSuffix? h, Option.getD_some, List.suffix_concat_iff,
        List.suffix_concat_iff]
      have hlast : ¬∃ t, s = t ++ ['.'] ∧ t <:+ p := fun ⟨t, ht, _⟩ => hs ⟨t, ht.symm⟩
      simp [hne, hlast]

/-- A list that does not end with a dot is the name without its trailing dot exactly when it
is the name, or the name before a last dot. -/
theorem stripTrailingDot_eq_iff {l name : List Char} (hl : ¬['.'] <:+ l) :
    stripTrailingDot name = l ↔ name = l ∨ name = l ++ ['.'] := by
  unfold stripTrailingDot
  cases h : name.dropSuffix? ['.'] with
  | none =>
      have hdot := dropSuffix?_eq_none_iff.1 h
      exact ⟨.inl, fun h' => h'.resolve_right fun he => hdot ⟨l, he.symm⟩⟩
  | some p =>
      rw [eq_append_of_dropSuffix? h, Option.getD_some]
      exact ⟨fun he => .inr (he ▸ rfl),
        fun h' => h'.elim (fun he => absurd ⟨p, he⟩ hl) List.append_cancel_right⟩

theorem consumeTransport_eq_some {name rest : List Char} {t : String}
    (h : consumeTransport name = some (rest, t)) :
    t ∈ transportTypes ∧ name = rest ++ '.' :: t.data := by
  obtain ⟨t', ht', hsome⟩ := List.exists_of_findSome?_eq_some h
  obtain ⟨p, hp, he⟩ := Option.map_eq_some'.1 hsome
  cases he
  exact ⟨ht', eq_append_of_dropSuffix? hp⟩

theorem consumeTransport_eq_none_iff {name : List Char} :
    consumeTransport name = none ↔ ∀ t ∈ transportTypes, ¬('.' :: t.data) <:+ name := by
  simp [consumeTransport, List.findSome?_eq_none_iff, dropSuffix?_eq_none_iff]

/-- A split at the last dot has a non-empty instance and a non-empty service free of dots,
which give back the name. -/
theorem splitAtLastDot_eq_some {name : List Char} {t : String} {r : MdnsInstance}
    (h : splitAtLastDot name t = some r) :
    r.instanceName ≠ "" ∧ r.serviceName ≠ "" ∧ '.' ∉ r.serviceName.data ∧
      r.transportType = t ∧ name = r.instanceName.data ++ '.' :: r.serviceName.data := by
  unfold splitAtLastDot at h
  split at h
  · cases h
  · rename_i service c inst heq
    obtain ⟨hsvc, hc, hrev⟩ := span_eq_cons_iff.1 heq
    split_ifs at h with hne
    cases h
    simp only [not_or] at hne
    refine ⟨fun he => hne.2 (by simpa using congrArg String.data he),
      fun he => hne.1 (by simpa using congrArg String.data he),
      fun hmem => by simpa using hsvc _ (List.mem_reverse.1 hmem), rfl, ?_⟩
    have hc : c = '.' := by simpa using hc
    rw [← List.reverse_reverse name, hrev, hc]
    simp

theorem splitAtLastDot_append {inst service : List Char} (hi : inst ≠ []) (hs : service ≠ [])
    (hdot : '.' ∉ service) (t : String) :
    splitAtLastDot (inst ++ '.' :: service) t = some ⟨⟨inst⟩, ⟨service⟩, t⟩ := by
  have hspan : (inst ++ '.' :: service).reverse.span (· != '.') =
      (service.reverse, '.' :: inst.reverse) :=
    span_eq_cons_iff.2 ⟨fun a ha => by
      simpa using fun h : a = '.' => hdot (h ▸ List.mem_reverse.1 ha), by decide, by simp⟩
  rw [splitAtLastDot, hspan]
  simp [hi, hs]

theorem wellFormed_of_splitAtLastDot {rest : List Char} {t : String} {r : MdnsInstance}
    (h : splitAtLastDot rest t = some r) (ht : t ∈ transportTypes) (domain : List Char) :
    r.WellFormed ∧ (r.fullName ⟨domain⟩).data = rest ++ '.' :: t.data ++ domain := by
  obtain ⟨hi, hs, hdot, rfl, rfl⟩ := splitAtLastDot_eq_some h
  exact ⟨⟨hi, hs, hdot, ht⟩, by simp [MdnsInstance.fullName]⟩

/-! ## What the parser accepts -/

/-- A name that ends with a transport label and a domain suffix is split before the label. -/
theorem mdnsParseInstanceName_of_data {name : String} {pre : List Char} {t domain : String}
    (ht : t ∈ transportTypes) (hd : domain ∈ domainSuffixes)
    (h : name.data = pre ++ '.' :: t.data ++ domain.data) :
    mdnsParseInstanceName name = splitAtLastDot pre t := by
  simp only [domainSuffixes, transportTypes, List.mem_cons, List.not_mem_nil, or_false] at hd ht
  rcases hd with rfl | rfl | rfl | rfl <;> rcases ht with rfl | rfl <;>
    simp (disch := decide) [mdnsParseInstanceName, stripTrailingDot, h, consumeTransport,
      transportTypes, List.findSome?_cons, dropSuffix?_append_of_suffix,
      dropSuffix?_append_of_not_suffix]

/-- A well-formed name is accepted with its own instance, service and transport, under every
domain suffix. -/
theorem mdnsParseInstanceName_fullName {r : MdnsInstance} (hr : r.WellFormed) {domain : String}
    (hd : domain ∈ domainSuffixes) : mdnsParseInstanceName (r.fullName domain) = some r := by
  obtain ⟨hi, hs, hdot, ht⟩ := hr
  have hname : (r.fullName domain).data = (r.instanceName.data ++ '.' :: r.serviceName.data) ++
      '.' :: r.transportType.data ++ domain.data := by simp [MdnsInstance.fullName]
  rw [mdnsParseInstanceName_of_data ht hd hname]
  exact splitAtLastDot_append (fun h => hi (String.ext h)) (fun h => hs (String.ext h)) hdot _

/-- Every parse is the whole name as a bare instance, or a well-formed one whose full name,
under one of the domain suffixes, is the name that was parsed. -/
theorem mdnsParseInstanceName_eq_some {name : String} {r : MdnsInstance}
    (h : mdnsParseInstanceName name = some r) :
    r = ⟨name, "", ""⟩ ∨ r.WellFormed ∧ ∃ domain ∈ domainSuffixes, name = r.fullName domain := by
  obtain ⟨dot, hdot, hbody⟩ := stripTrailingDot_append name.data
  have hdomain : (⟨dot⟩ : String) ∈ domainSuffixes ∧
      (⟨".local".data ++ dot⟩ : String) ∈ domainSuffixes := by
    simp only [List.mem_cons, List.not_mem_nil, or_false] at hdot
    rcases hdot with rfl | rfl <;> decide
  dsimp only [mdnsParseInstanceName] at h
  split at h
  · rename_i rest _ hlocal
    obtain ⟨⟨rest', t⟩, htransport, h⟩ := Option.bind_eq_some.1 h
    obtain ⟨ht, hrest⟩ := consumeTransport_eq_some htransport
    obtain ⟨hwf, hfull⟩ := wellFormed_of_splitAtLastDot h ht (".local".data ++ dot)
    refine .inr ⟨hwf, _, hdomain.2, String.ext ?_⟩
    rw [hfull, hbody, eq_append_of_dropSuffix? hlocal, hrest]
    simp
  · rename_i rest t _ htransport
    obtain ⟨ht, hrest⟩ := consumeTransport_eq_some htransport
    obtain ⟨hwf, hfull⟩ := wellFormed_of_splitAtLastDot h ht dot
    exact .inr ⟨hwf, _, hdomain.1, String.ext (by rw [hfull, hbody, hrest])⟩
  · split_ifs at h
    exact .inl (Option.some.inj h).symm

/-- The parse is bare exactly when the name, without its trailing dot, ends with neither the
domain nor a transport label and is not a transport label alone. -/
theorem mdnsParseInstanceName_eq_bare_iff_steps (name : String) :
    mdnsParseInstanceName name = some ⟨name, "", ""⟩ ↔
      (stripTrailingDot name.data).dropSuffix? ".local".data = none ∧
        consumeTransport (stripTrailingDot name.data) = none ∧
        stripTrailingDot name.data ∉ transportTypes.map String.data := by
  constructor
  · intro h
    dsimp only [mdnsParseInstanceName] at h
    split at h
    · obtain ⟨_, -, h⟩ := Option.bind_eq_some.1 h
      exact absurd rfl (splitAtLastDot_eq_some h).2.1
    · exact absurd rfl (splitAtLastDot_eq_some h).2.1
    · split_ifs at h with hlabel
      exact ⟨‹_›, ‹_›, hlabel⟩
  · rintro ⟨hlocal, htransport, hlabel⟩
    simp only [mdnsParseInstanceName, hlocal, htransport, if_neg hlabel]

/-- A name is returned whole, as a bare instance name, exactly when it ends with neither the
`local` domain nor a transport label, and is not a transport label alone, each with or without
a trailing dot. -/
theorem mdnsParseInstanceName_eq_bare_iff (name : String) :
    mdnsParseInstanceName name = some ⟨name, "", ""⟩ ↔
      (∀ suffix ∈ qualifiedSuffixes, ¬suffix.data <:+ name.data) ∧
        ∀ t ∈ transportTypes, name ≠ t ∧ name ≠ t ++ "." := by
  rw [mdnsParseInstanceName_eq_bare_iff_steps, dropSuffix?_eq_none_iff,
    consumeTransport_eq_none_iff]
  simp (disch := decide) [transportTypes, qualifiedSuffixes, suffix_stripTrailingDot_iff,
    stripTrailingDot_eq_iff, and_assoc]
  simp [String.ext_iff]

/-- The parser accepts exactly the names that end with neither the `local` domain nor a
transport label and are not a transport label alone, which it returns whole as the instance,
and the full names of well-formed parses under a domain suffix, which it splits into their
parts. -/
theorem mdnsParseInstanceName_eq_some_iff (name : String) (r : MdnsInstance) :
    mdnsParseInstanceName name = some r ↔
      (r = ⟨name, "", ""⟩ ∧ (∀ suffix ∈ qualifiedSuffixes, ¬suffix.data <:+ name.data) ∧
          ∀ t ∈ transportTypes, name ≠ t ∧ name ≠ t ++ ".") ∨
        (r.WellFormed ∧ ∃ domain ∈ domainSuffixes, name = r.fullName domain) := by
  constructor
  · intro h
    rcases mdnsParseInstanceName_eq_some h with rfl | hq
    · exact .inl ⟨rfl, (mdnsParseInstanceName_eq_bare_iff name).1 h⟩
    · exact .inr hq
  · rintro (⟨rfl, hbare⟩ | ⟨hr, domain, hd, rfl⟩)
    · exact (mdnsParseInstanceName_eq_bare_iff name).2 hbare
    · exact mdnsParseInstanceName_fullName hr hd

/-- The table of names of the design, with the quirk of the double dot. -/
example :
    mdnsParseInstanceName "." = some ⟨".", "", ""⟩ ∧
      mdnsParseInstanceName "my.service._tcp" = some ⟨"my", "service", "_tcp"⟩ ∧
      mdnsParseInstanceName "my..service._tcp" = some ⟨"my.", "service", "_tcp"⟩ ∧
      mdnsParseInstanceName "._tcp" = none ∧ mdnsParseInstanceName "_udp." = none ∧
      mdnsParseInstanceName "name.service._tcp..local." = none ∧
      mdnsParseInstanceName "name.service._tcp.local" = some ⟨"name", "service", "_tcp"⟩ := by
  decide

/-! ## Lookups by name -/

open DiscoveredServices

/-- `mdns_get_connect_service_info` looks a well-formed name up, under any domain suffix, by its
full name `instance.service.transport`. -/
theorem mdnsGetConnectServiceInfo_fullName (services : DiscoveredServices) {r : MdnsInstance}
    (hr : r.WellFormed) {domain : String} (hd : domain ∈ domainSuffixes) :
    mdnsGetConnectServiceInfo mdnsParseInstanceName services (r.fullName domain) =
      services.lookup (r.instanceName ++ "." ++ (r.serviceName ++ "." ++ r.transportType)) := by
  rw [mdnsGetConnectServiceInfo, mdnsParseInstanceName_fullName hr hd]
  rfl

/-- The TLS record of instance `foo`, looked up by its name in the `local` domain. -/
theorem mdnsGetConnectServiceInfo_fullName_tls :
    let r : MdnsInstance := ⟨"foo", "_adb-tls-connect", "_tcp"⟩
    let info : ServiceInfo := ⟨"foo", "_adb-tls-connect._tcp", none, ∅, 0, ∅⟩
    r.WellFormed ∧ ".local." ∈ domainSuffixes ∧
      mdnsGetConnectServiceInfo mdnsParseInstanceName (run [(.created, info)])
          (r.fullName ".local.") = some info ∧
      mdnsGetConnectServiceInfo mdnsParseInstanceName (run [(.created, info)])
          (r.fullName ".local.") =
        (run [(.created, info)]).lookup
          (r.instanceName ++ "." ++ (r.serviceName ++ "." ++ r.transportType)) :=
  ⟨by decide, by decide, by decide, mdnsGetConnectServiceInfo_fullName _ (by decide) (by decide)⟩

/-- In every reachable registry, a record that `mdns_get_connect_service_info` finds has as full
name the name it was given without its domain suffix; a bare name can only find a record whose
full name is the name followed by two dots. -/
theorem mdnsGetConnectServiceInfo_run (events : List Event) (name : String) {info : ServiceInfo}
    (h : mdnsGetConnectServiceInfo mdnsParseInstanceName (run events) name = some info) :
    (∃ domain ∈ domainSuffixes, name = fqName info ++ domain) ∨ fqName info = name ++ ".." := by
  unfold mdnsGetConnectServiceInfo at h
  split at h
  · cases h
  · rename_i r hparse
    have hkey := keysConsistent_run events _ _ h
    rcases mdnsParseInstanceName_eq_some hparse with rfl | ⟨-, domain, hd, rfl⟩
    · exact .inr (by rw [hkey, String.append_assoc]; rfl)
    · exact .inl ⟨domain, hd, by simp only [hkey, MdnsInstance.fullName, String.append_assoc]⟩

/-- The TLS record of instance `foo`, found by its name with a trailing dot. -/
theorem mdnsGetConnectServiceInfo_run_tls :
    let info : ServiceInfo := ⟨"foo", "_adb-tls-connect._tcp", none, ∅, 0, ∅⟩
    mdnsGetConnectServiceInfo mdnsParseInstanceName (run [(.created, info)])
        "foo._adb-tls-connect._tcp." = some info ∧
      ((∃ domain ∈ domainSuffixes, "foo._adb-tls-connect._tcp." = fqName info ++ domain) ∨
        fqName info = "foo._adb-tls-connect._tcp." ++ "..") := by
  intro info
  exact ⟨by decide, mdnsGetConnectServiceInfo_run [(.created, info)] _ (by decide)⟩

end Adb.Mdns
