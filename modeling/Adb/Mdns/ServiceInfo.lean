import Mathlib.Data.Finmap
import Mathlib.Data.Vector.Defs

/-!
# Service records of the mDNS client

The value types of `client/discovered_services.h`: the two address types, the `ServiceInfo`
record that the registry stores, the TXT attribute parser its constructor runs, and the event
kind `ServiceInfoState`. The `unordered_set` of IPv6 addresses is a `Finset` and the
`unordered_map` of attributes is a `Finmap`, so equality of two records is the equality the
C++ operators compute: the IPv6 addresses as a set and the attributes as a map.
`parseTxtKeyValue_eq_true_iff` says which TXT records the parser accepts, and
`lookup_parseTxt` that among them the last record of a key gives its attribute.
-/

namespace Adb.Mdns

/-- `IPv4Address`: four bytes, compared bytewise by `operator==`. -/
structure IPv4Address where
  bytes : Mathlib.Vector UInt8 4
  deriving DecidableEq

/-- `IPv6Address`: sixteen bytes, compared bytewise by `operator==`. Its hash and `operator<`
only serve the containers. -/
structure IPv6Address where
  bytes : Mathlib.Vector UInt8 16
  deriving DecidableEq

/-- The parsed TXT attributes, an `unordered_map<string, string>`. -/
abbrev Attributes := Finmap fun _ : String => String

/-- `ServiceInfo`: one advertised service instance, as the registry stores it. -/
structure ServiceInfo where
  «instance» : String
  service : String
  v4Address : Option IPv4Address
  v6Addresses : Finset IPv6Address
  port : UInt16
  attributes : Attributes
  deriving DecidableEq

/-- `ServiceInfo::v4_address_string`: the dotted decimal form, or the empty string when no
IPv4 address is known. -/
def ServiceInfo.v4AddressString (info : ServiceInfo) : String :=
  match info.v4Address with
  | none => ""
  | some address => ".".intercalate (address.bytes.toList.map toString)

/-- Modelled from the spec: `ServiceInfo::ParseTxtKeyValue`, declared in
`discovered_services.h` with its body outside the sources. The record is split at its first
`=`; it is rejected when it has no `=` or the key before it is empty. -/
def parseTxtKeyValue (kv : String) : Bool × String × String :=
  match kv.data.span (· != '=') with
  | (_, []) => (false, "", "")
  | ([], _ :: _) => (false, "", "")
  | (key, _ :: value) => (true, ⟨key⟩, ⟨value⟩)

/-- `span p` stops at the first element that fails `p`. -/
theorem span_eq_cons_iff {α : Type} {p : α → Bool} {l pre post : List α} {c : α} :
    l.span p = (pre, c :: post) ↔
      (∀ a ∈ pre, p a = true) ∧ p c = false ∧ l = pre ++ c :: post := by
  rw [List.span_eq_take_drop, Prod.mk.injEq]
  constructor
  · rintro ⟨hk, hd⟩
    refine ⟨fun a ha => List.mem_takeWhile_imp (hk ▸ ha), ?_, ?_⟩
    · simpa [hd] using List.head_dropWhile_not p l (by simp [hd])
    · rw [← List.takeWhile_append_dropWhile p l, hk, hd]
  · rintro ⟨hpre, hc, rfl⟩
    rw [List.takeWhile_append_of_pos hpre, List.dropWhile_append_of_pos hpre]
    simp [List.takeWhile_cons, List.dropWhile_cons, hc]

/-- An accepted TXT record is a non-empty key free of `=`, then `=`, then the value. -/
theorem parseTxtKeyValue_eq_true {kv key value : String}
    (h : parseTxtKeyValue kv = (true, key, value)) :
    key ≠ "" ∧ '=' ∉ key.data ∧ key ++ "=" ++ value = kv := by
  unfold parseTxtKeyValue at h
  split at h
  · cases h
  · cases h
  · rename_i k c v hne heq
    simp only [Prod.mk.injEq, true_and] at h
    obtain ⟨rfl, rfl⟩ := h
    obtain ⟨hk, hc, hkv⟩ := span_eq_cons_iff.1 heq
    have hc : c = '=' := by simpa using hc
    exact ⟨fun h => hne (congrArg String.data h), fun hmem => by simpa using hk _ hmem,
      String.ext (by simp [hkv, hc])⟩

/-- A non-empty key free of `=`, then `=`, then any value, is accepted as that key and value. -/
theorem parseTxtKeyValue_append {key value : String} (hkey : key ≠ "")
    (hfree : '=' ∉ key.data) : parseTxtKeyValue (key ++ "=" ++ value) = (true, key, value) := by
  have hspan : (key ++ "=" ++ value).data.span (· != '=') = (key.data, '=' :: value.data) :=
    span_eq_cons_iff.2
      ⟨fun a ha => by simpa using fun h : a = '=' => hfree (h ▸ ha), by decide, by simp⟩
  obtain ⟨_ | ⟨a, k⟩⟩ := key
  · exact absurd rfl hkey
  · rw [parseTxtKeyValue, hspan]

/-- `ParseTxtKeyValue` accepts exactly the records `key=value` with a non-empty key free of
`=`, and returns that key and value: the split at the first `=` is a round trip. -/
theorem parseTxtKeyValue_eq_true_iff (kv key value : String) :
    parseTxtKeyValue kv = (true, key, value) ↔
      key ≠ "" ∧ '=' ∉ key.data ∧ key ++ "=" ++ value = kv := by
  refine ⟨parseTxtKeyValue_eq_true, ?_⟩
  rintro ⟨hkey, hfree, rfl⟩
  exact parseTxtKeyValue_append hkey hfree

/-- A TXT record's bytes read as a `std::string`, one character per byte. -/
def txtString (record : List UInt8) : String :=
  ⟨record.map fun byte => Char.ofNat byte.toNat⟩

/-- Modelled from the spec: `ServiceInfo::ParseTxt`, declared in `discovered_services.h`
with its body outside the sources. Records that `parseTxtKeyValue` rejects are skipped, and a
later record overwrites the value of an earlier one with the same key. -/
def parseTxt (txt : List (List UInt8)) : Attributes :=
  txt.foldl (fun attributes record =>
    match parseTxtKeyValue (txtString record) with
    | (true, key, value) => attributes.insert key value
    | (false, _, _) => attributes) ∅

/-- The key and value of each TXT record that `ParseTxtKeyValue` accepts, in order. -/
def txtEntries (txt : List (List UInt8)) : List (String × String) :=
  txt.filterMap fun record =>
    match parseTxtKeyValue (txtString record) with
    | (true, key, value) => some (key, value)
    | (false, _, _) => none

/-- The attribute under a key is the value of the last accepted TXT record with that key. -/
theorem lookup_parseTxt (txt : List (List UInt8)) (key : String) :
    (parseTxt txt).lookup key = (txtEntries txt).reverse.lookup key := by
  induction txt using List.reverseRecOn with
  | nil => rfl
  | append_singleton txt record ih =>
      rw [parseTxt, List.foldl_append, ← parseTxt]
      rcases h : parseTxtKeyValue (txtString record) with ⟨_ | _, k, v⟩
      · have he : txtEntries (txt ++ [record]) = txtEntries txt := by simp [txtEntries, h]
        simp [he, h, ih]
      · have he : txtEntries (txt ++ [record]) = txtEntries txt ++ [(k, v)] := by
          simp [txtEntries, h]
        by_cases hk : key = k
        · subst hk
          simp [he, h]
        · simp [he, h, ih, Finmap.lookup_insert_of_ne _ hk, List.lookup_cons, beq_false_of_ne hk]

/-- The constructor `ServiceInfo(instance, service, v4_address, v6_addresses, port, txt)`,
which parses the raw TXT records into `attributes`. -/
def ServiceInfo.ofTxt (inst service : String) (v4Address : Option IPv4Address)
    (v6Addresses : Finset IPv6Address) (port : UInt16) (txt : List (List UInt8)) :
    ServiceInfo :=
  ⟨inst, service, v4Address, v6Addresses, port, parseTxt txt⟩

/-- `ServiceInfoState`: the kind of an event a discovery backend reports. -/
inductive ServiceInfoState where
  | created
  | updated
  | deleted
  deriving DecidableEq, Repr

end Adb.Mdns
