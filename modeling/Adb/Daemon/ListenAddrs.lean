import Mathlib.Data.List.Basic
import Mathlib.Algebra.Group.Int

/-!
# The addresses the daemon listens on

`get_listen_addrs` of `daemon/listen_addrs.cpp`: the bind specs the daemon listens on, from
the property `service.adb.listen_addrs`, the TCP port of `get_tcp_port`, and the flag
`adbd_bind_tcp_and_listen_addrs`. With the flag off, the listen addresses win and the TCP port
is used only without them; with the flag on, both are used and the wildcard TCP bind that mDNS
advertises comes first. `getListenAddrs_flag` relates the two paths on every input.

`get_tcp_port` reads its port with `sscanf("%d")`. The value it stores is computed as glibc and
bionic compute it on the 64-bit targets: the numeral is read into a saturating 64-bit `long`
and stored into the `int` modulo `2^32`, so a numeral past `UINT32_MAX` can name a small port.
-/

namespace Adb.Daemon

/-- What `get_listen_addrs` reads besides the flag: the properties `service.adb.tcp.port`,
`persist.adb.tcp.port` and `service.adb.listen_addrs`, where an unset property reads as the
empty string; the environment variable `ADBD_PORT`, `none` when unset; and whether the daemon
is built for Android, where `ADBD_PORT` is not read. -/
structure Properties where
  serviceAdbTcpPort : String
  persistAdbTcpPort : String
  adbdPort : Option String
  serviceAdbListenAddrs : String
  android : Bool

/-- `isspace` in the C locale. -/
def isSpace (ch : Char) : Bool :=
  ch = ' ' || ch = '\t' || ch = '\n' || ch = '\x0b' || ch = '\x0c' || ch = '\r'

/-- The value of a string of decimal digits. -/
def digitsValue (digits : List Char) : Nat :=
  digits.foldl (fun value digit => 10 * value + (digit.toNat - '0'.toNat)) 0

/-- The optional sign of a numeral: whether it is `-`, and what follows it. -/
def readSign : List Char → Bool × List Char
  | '-' :: rest => (true, rest)
  | '+' :: rest => (false, rest)
  | rest => (false, rest)

/-- `strtol` of glibc and `strtoimax` of bionic on the 64-bit targets: a value outside 64 bits
saturates at `LONG_MIN` or `LONG_MAX`. -/
def saturateLong (value : Int) : Int := max (-2 ^ 63) (min value (2 ^ 63 - 1))

/-- The store of a `long` into an `int`: the value modulo `2^32`, read in two's complement. -/
def truncateInt (value : Int) : Int := value.bmod (2 ^ 32)

/-- `sscanf(s, "%d", &port) == 1` and the value it stores, as glibc and bionic compute it on the
64-bit targets: white space is skipped, a sign may follow, and at least one digit must. The
numeral is read as a saturating 64-bit `long` and stored into the `int`; C leaves a value
outside `int` undefined. -/
def scanDecimal (s : String) : Option Int :=
  let (negative, rest) := readSign (s.data.dropWhile isSpace)
  let digits := rest.takeWhile Char.isDigit
  if digits.isEmpty then none
  else
    let value : Int := if negative then -(digitsValue digits : Int) else digitsValue digits
    some (truncateInt (saturateLong value))

/-- `get_tcp_port`: the first set one of `service.adb.tcp.port`, `persist.adb.tcp.port` and,
off Android, `ADBD_PORT`, if it reads as a number from 1 to `UINT16_MAX`. -/
def getTcpPort (props : Properties) : Option UInt16 :=
  let propPort :=
    if props.serviceAdbTcpPort = "" then props.persistAdbTcpPort else props.serviceAdbTcpPort
  let propPort :=
    match props.adbdPort with
    | some port => if !props.android && propPort = "" then port else propPort
    | none => propPort
  match scanDecimal propPort with
  | some port => if 0 < port ∧ port ≤ 65535 then some port.toNat.toUInt16 else none
  | none => none

/-- `DEFAULT_ADB_LOCAL_TRANSPORT_PORT`, defined in `adb.h` outside the sources; the comment of
`get_listen_addrs` in `listen_addrs.h` gives its value. -/
def defaultAdbLocalTransportPort : UInt16 := 5555

/-- `push_tcp_addrs`: a TCP and a VSOCK bind spec on the port. -/
def pushTcpAddrs (addrs : List String) (port : UInt16) : List String :=
  addrs ++ ["tcp:" ++ toString port, "vsock:" ++ toString port]

/-- The loop of `android::base::Split` with one delimiter list: the piece read so far is kept
reversed, and each delimiter closes it. -/
def splitAux (delimiters : List Char) : List Char → List Char → List String
  | [], piece => [⟨piece.reverse⟩]
  | ch :: rest, piece =>
      if ch ∈ delimiters then ⟨piece.reverse⟩ :: splitAux delimiters rest []
      else splitAux delimiters rest (ch :: piece)

/-- `android::base::Split`: the pieces between the delimiters, empty pieces kept, so there is
always at least one. -/
def split (s delimiters : String) : List String :=
  splitAux delimiters.data s.data []

/-- `push_listen_addrs`: the comma-separated bind specs of `service.adb.listen_addrs`, unless
it is empty. -/
def pushListenAddrs (addrs : List String) (props : Properties) : List String :=
  if props.serviceAdbListenAddrs = "" then addrs
  else addrs ++ split props.serviceAdbListenAddrs ","

/-- `get_listen_addrs`, with the flag `adbd_bind_tcp_and_listen_addrs` as its first argument. -/
def getListenAddrs (adbdBindTcpAndListenAddrs : Bool) (props : Properties)
    (enableFallback : Bool) : List String :=
  let addrs :=
    if adbdBindTcpAndListenAddrs then
      let addrs :=
        match getTcpPort props with
        | some port => pushTcpAddrs [] port
        | none => []
      pushListenAddrs addrs props
    else
      let addrs := pushListenAddrs [] props
      if addrs.isEmpty then
        match getTcpPort props with
        | some port => pushTcpAddrs addrs port
        | none => addrs
      else addrs
  if addrs.isEmpty && enableFallback then pushTcpAddrs addrs defaultAdbLocalTransportPort
  else addrs

theorem splitAux_ne_nil (delimiters : List Char) (s piece : List Char) :
    splitAux delimiters s piece ≠ [] := by
  induction s generalizing piece with
  | nil => simp [splitAux]
  | cons ch rest ih =>
      unfold splitAux
      split_ifs
      · simp
      · exact ih _

/-- The two paths of `get_listen_addrs` agree when the listen addresses are empty or there is
no TCP port. Otherwise the flag-off path returns the listen addresses, and the flag-on path the
TCP and VSOCK binds on the port followed by them. -/
theorem getListenAddrs_flag (props : Properties) (enableFallback : Bool) :
    (props.serviceAdbListenAddrs = "" ∨ getTcpPort props = none →
      getListenAddrs true props enableFallback = getListenAddrs false props enableFallback) ∧
    (∀ port, props.serviceAdbListenAddrs ≠ "" → getTcpPort props = some port →
      getListenAddrs true props enableFallback =
          ["tcp:" ++ toString port, "vsock:" ++ toString port] ++
            getListenAddrs false props enableFallback ∧
        getListenAddrs false props enableFallback = split props.serviceAdbListenAddrs ",") := by
  have hsplit := splitAux_ne_nil ",".data props.serviceAdbListenAddrs.data []
  refine ⟨fun h => ?_, fun port hl hp => ?_⟩
  · rcases h with hl | hp
    · cases hp : getTcpPort props <;> simp [getListenAddrs, pushListenAddrs, pushTcpAddrs, hl, hp]
    · by_cases hl : props.serviceAdbListenAddrs = "" <;>
        simp [getListenAddrs, pushListenAddrs, pushTcpAddrs, hl, hp]
  · simp [getListenAddrs, pushListenAddrs, pushTcpAddrs, split, hl, hp, hsplit]

/-- With the fallback enabled the daemon always listens somewhere; without it, it listens
nowhere exactly when neither listen addresses nor a TCP port are configured, whatever the
flag. -/
theorem getListenAddrs_eq_nil_iff (flag : Bool) (props : Properties) (enableFallback : Bool) :
    getListenAddrs flag props enableFallback = [] ↔
      enableFallback = false ∧ props.serviceAdbListenAddrs = "" ∧ getTcpPort props = none := by
  have hsplit := splitAux_ne_nil ",".data props.serviceAdbListenAddrs.data []
  by_cases hl : props.serviceAdbListenAddrs = "" <;> cases hp : getTcpPort props <;>
    cases flag <;> cases enableFallback <;>
    simp [getListenAddrs, pushListenAddrs, pushTcpAddrs, split, hl, hp, hsplit]

/-! ## Reading the port -/

theorem isSpace_eq_false_of_isDigit {ch : Char} (h : ch.isDigit) : isSpace ch = false := by
  unfold isSpace
  by_contra hspace
  simp only [Bool.not_eq_false, Bool.or_eq_true, decide_eq_true_eq] at hspace
  rcases hspace with ((((rfl | rfl) | rfl) | rfl) | rfl) | rfl <;> exact absurd h (by decide)

/-- A numeral that starts with a digit has no sign. -/
theorem readSign_of_isDigit {ch : Char} (h : ch.isDigit) (rest : List Char) :
    readSign (ch :: rest) = (false, ch :: rest) := by
  unfold readSign
  split <;> first
    | rfl
    | (obtain ⟨rfl, -⟩ := List.cons.inj ‹_›; exact absurd h (by decide))

/-- A numeral of digits is read as its value, saturated to a `long` and stored into an
`int`. -/
theorem scanDecimal_digits {digits : List Char} (hne : digits ≠ [])
    (hdigits : ∀ ch ∈ digits, ch.isDigit) :
    scanDecimal ⟨digits⟩ = some (truncateInt (saturateLong (digitsValue digits))) := by
  obtain ⟨ch, rest, rfl⟩ := List.exists_cons_of_ne_nil hne
  have hch := hdigits ch (List.mem_cons_self _ _)
  have hdrop : (ch :: rest).dropWhile isSpace = ch :: rest :=
    List.dropWhile_cons_of_neg (by simp [isSpace_eq_false_of_isDigit hch])
  simp [scanDecimal, hdrop, readSign_of_isDigit hch, List.takeWhile_eq_self_iff.2 hdigits]

/-- The value that a numeral of value `value` stores: its remainder modulo `2^32`, read in two's
complement, while it fits in a `long`, and `-1` from `LONG_MAX` on. -/
theorem truncateInt_saturateLong (value : Nat) :
    truncateInt (saturateLong value) =
      if value < 2 ^ 63 then
        if value % 2 ^ 32 < 2 ^ 31 then ((value % 2 ^ 32 : Nat) : Int)
        else ((value % 2 ^ 32 : Nat) : Int) - 2 ^ 32
      else -1 := by
  unfold truncateInt
  by_cases hlong : value < 2 ^ 63
  · have hsat : saturateLong value = value := by unfold saturateLong; omega
    rw [if_pos hlong, hsat, Int.bmod_def]
    push_cast
    split_ifs <;> omega
  · have hsat : saturateLong value = 2 ^ 63 - 1 := by unfold saturateLong; omega
    rw [if_neg hlong, hsat]
    decide

/-- A numeral of digits in `service.adb.tcp.port` names the port of its value modulo `2^32`,
when the value fits in a `long` and the remainder is from 1 to `UINT16_MAX`; past `LONG_MAX`
the value saturates, is stored as `-1`, and names no port. -/
theorem getTcpPort_numeral (props : Properties) {digits : List Char} (hne : digits ≠ [])
    (hdigits : ∀ ch ∈ digits, ch.isDigit) (hprop : props.serviceAdbTcpPort = ⟨digits⟩) :
    getTcpPort props =
      if digitsValue digits < 2 ^ 63 ∧ 0 < digitsValue digits % 2 ^ 32 ∧
          digitsValue digits % 2 ^ 32 ≤ 65535
      then some (digitsValue digits % 2 ^ 32).toUInt16 else none := by
  have hset : props.serviceAdbTcpPort ≠ "" := by
    rw [hprop]
    exact fun h => hne (congrArg String.data h)
  have hread : scanDecimal props.serviceAdbTcpPort =
      some (truncateInt (saturateLong (digitsValue digits))) := by
    rw [hprop, scanDecimal_digits hne hdigits]
  unfold getTcpPort
  cases props.adbdPort <;> simp only [hset, hread, truncateInt_saturateLong, if_false,
    decide_False, Bool.and_false, Bool.false_eq_true] <;> split_ifs <;> first | rfl | omega

/-- A port property of `4294967297` makes the daemon listen on port 1. -/
theorem getTcpPort_numeral_wraps :
    let props : Properties := ⟨"4294967297", "", none, "", true⟩
    getTcpPort props = some 1 ∧
      getTcpPort props =
        if digitsValue "4294967297".data < 2 ^ 63 ∧ 0 < digitsValue "4294967297".data % 2 ^ 32 ∧
            digitsValue "4294967297".data % 2 ^ 32 ≤ 65535
        then some (digitsValue "4294967297".data % 2 ^ 32).toUInt16 else none :=
  ⟨by decide, getTcpPort_numeral _ (by decide) (by decide) rfl⟩

/-- `PortAndListenAddr` of `listen_addrs_test.cpp`. -/
example : getListenAddrs true ⟨"5544", "", none, "tcp:localhost:5555,tcp:localhost:5556", true⟩
    true = ["tcp:5544", "vsock:5544", "tcp:localhost:5555", "tcp:localhost:5556"] := by
  decide

end Adb.Daemon
