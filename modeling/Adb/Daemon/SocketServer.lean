import Mathlib.Data.List.Basic

/-!
# The daemon's socket acceptor

`server_socket_thread` of `daemon/transport_socket_server.cpp`: bind a listening socket for a
bind spec, retrying until it succeeds or fails for good, then accept connections forever and
register a transport for each. On a `vsock:` address, with the check of
`should_check_vsock_cid` on, the daemon rejects connections from the local machine, so that no
local process can reach it through VSOCK. The system's answers to the calls are inputs of the
model. The bind loop gives up only on an unrecoverable `errno` after a run of recoverable
failures.
-/

namespace Adb.Daemon

/-- `VMADDR_CID_LOCAL` of `<linux/vm_sockets.h>`. -/
def vmaddrCidLocal : UInt32 := 1

/-- `AF_VSOCK` of `<sys/socket.h>`. -/
def afVsock : UInt16 := 40

/-- The `errno` values after which the bind loop gives up: `EAFNOSUPPORT`, `EINVAL` and
`EPROTONOSUPPORT`. -/
def unrecoverableErrnos : List Nat := [97, 22, 93]

/-- The fields of `sockaddr_vm` the acceptor reads. -/
structure SockaddrVm where
  svmFamily : UInt16
  svmCid : UInt32
  deriving DecidableEq

/-- The system's answers to the calls of one turn of the accept loop: the descriptor
`adb_socket_accept` returns with the peer's address, and the local address `getsockname`
reports, `none` when it fails. -/
structure AcceptAnswer where
  fd : Int
  clientAddr : SockaddrVm
  serverAddr : Option SockaddrVm
  deriving DecidableEq

/-- `should_check_vsock_cid`: the flag `adbd_restrict_vsock_local_cid` on Android outside
recovery, and `true` elsewhere. -/
def shouldCheckVsockCid (androidNotRecovery restrictVsockLocalCid : Bool) : Bool :=
  if androidNotRecovery then restrictVsockLocalCid else true

/-- `is_local_vsock_connection`: either side has the local CID, or both have the same CID. -/
def isLocalVsockConnection (serverAddr clientAddr : SockaddrVm) : Bool :=
  serverAddr.svmCid == vmaddrCidLocal || clientAddr.svmCid == vmaddrCidLocal ||
    serverAddr.svmCid == clientAddr.svmCid

/-- `adb_vsock_accept`: the accepted descriptor, or `none` for the invalid descriptor it
returns when the accept or `getsockname` fails, an address is not of the VSOCK family, or the
connection is local. -/
def adbVsockAccept (answer : AcceptAnswer) : Option Int :=
  if answer.fd < 0 then none
  else
    match answer.serverAddr with
    | none => none
    | some serverAddr =>
        if serverAddr.svmFamily != afVsock || answer.clientAddr.svmFamily != afVsock then none
        else if isLocalVsockConnection serverAddr answer.clientAddr then none
        else some answer.fd

/-- One turn of the accept loop of `server_socket_thread`: the descriptor it registers a
transport for, if any. A `vsock:` address goes through `adb_vsock_accept` when the check is
on. -/
def acceptOnce (addr : String) (checkVsockCid : Bool) (answer : AcceptAnswer) : Option Int :=
  if "vsock:".data.isPrefixOf addr.data && checkVsockCid then adbVsockAccept answer
  else if answer.fd < 0 then none
  else some answer.fd

/-- The descriptors that the accept loop registers transports for, over the answers of its
turns. -/
def acceptLoop (addr : String) (checkVsockCid : Bool) (answers : List AcceptAnswer) :
    List Int :=
  answers.filterMap (acceptOnce addr checkVsockCid)

/-- How the bind loop of `server_socket_thread` ends. -/
inductive BindOutcome where
  | listening (fd : Int)
  | unrecoverable
  | retrying
  deriving DecidableEq

/-- The bind loop of `server_socket_thread`, over the answers of successive
`socket_spec_listen` calls, each a descriptor and the `errno` it left. It retries while the
descriptor is `-1`, gives up on an unrecoverable `errno`, and is still retrying when the
answers run out. -/
def bindLoop : List (Int × Nat) → BindOutcome
  | [] => .retrying
  | (fd, errno) :: rest =>
      if fd < 0 then
        if errno ∈ unrecoverableErrnos then .unrecoverable
        else if fd = -1 then bindLoop rest
        else .listening fd
      else .listening fd

/-! ## Binding -/

/-- The bind loop gives up exactly when a call fails with an unrecoverable `errno` after a run
of failures that each returned `-1` with a recoverable `errno`. -/
theorem bindLoop_eq_unrecoverable_iff (answers : List (Int × Nat)) :
    bindLoop answers = .unrecoverable ↔
      ∃ retries fd errno rest, answers = retries ++ (fd, errno) :: rest ∧
        (∀ retry ∈ retries, retry.1 = -1 ∧ retry.2 ∉ unrecoverableErrnos) ∧
        fd < 0 ∧ errno ∈ unrecoverableErrnos := by
  induction answers with
  | nil => simp [bindLoop]
  | cons answer answers ih =>
      obtain ⟨fd, errno⟩ := answer
      constructor
      · intro h
        unfold bindLoop at h
        split_ifs at h with hfd herrno hretry
        · exact ⟨[], fd, errno, answers, rfl, by simp, hfd, herrno⟩
        · obtain ⟨retries, fd', errno', rest, rfl, hretries, hfd', herrno'⟩ := ih.1 h
          refine ⟨(fd, errno) :: retries, fd', errno', rest, rfl, ?_, hfd', herrno'⟩
          simpa [hretry, herrno] using hretries
      · rintro ⟨_ | ⟨retry, retries⟩, fd', errno', rest, heq, hretries, hfd', herrno'⟩
        · simp only [List.nil_append, List.cons.injEq, Prod.mk.injEq] at heq
          obtain ⟨⟨rfl, rfl⟩, rfl⟩ := heq
          simp [bindLoop, hfd', herrno']
        · simp only [List.cons_append, List.cons.injEq] at heq
          obtain ⟨rfl, rfl⟩ := heq
          obtain ⟨hfd, herrno⟩ := hretries _ (List.mem_cons_self _ _)
          have hrest := ih.2 ⟨retries, fd', errno', rest, rfl,
            fun r hr => hretries r (List.mem_cons_of_mem _ hr), hfd', herrno'⟩
          simp only at hfd herrno
          simp [bindLoop, hfd, herrno, hrest]

end Adb.Daemon
