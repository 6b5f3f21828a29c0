import Mathlib.Tactic.Common

/-!
# Socket addresses (`net_addr.h`, `net_addr.c`)

`net_addr_t` is `struct sockaddr_in`. Port and host are kept as stored, in network byte order; the
padding `sin_zero`, which only `memset` and `memcpy` touch, is left out.
-/

namespace UniversalNetwork

/-- `AF_INET`. -/
def afInet : UInt16 := 2

structure NetAddr where
  sinFamily : UInt16
  sinPort : UInt16
  sAddr : UInt32
deriving DecidableEq, Repr

/-- The struct after `bzero`. -/
def NetAddr.zeroed : NetAddr := ⟨0, 0, 0⟩

/-- Host to network order on a little-endian host. -/
def htons (x : UInt16) : UInt16 := (x <<< 8) ||| (x >>> 8)

def htonl (x : UInt32) : UInt32 :=
  (x <<< 24) ||| ((x <<< 8) &&& (0xFF0000 : UInt32)) ||| ((x >>> 8) &&& (0xFF00 : UInt32)) |||
    (x >>> 24)

def netAddrSet (host : UInt32) (port : UInt16) (doHostToNetwork : Bool) : NetAddr where
  sinFamily := afInet
  sinPort := if doHostToNetwork then htons port else port
  sAddr := if doHostToNetwork then htonl host else host

def netAddrIsEqual (addrA addrB : NetAddr) : Bool :=
  addrA.sinFamily == addrB.sinFamily && addrA.sinPort == addrB.sinPort &&
    addrA.sAddr == addrB.sAddr

/-- Any address but the zeroed one. -/
def netAddrIsValid (addr : NetAddr) : Bool := netAddrIsEqual addr .zeroed == false

theorem netAddrIsEqual_iff {addrA addrB : NetAddr} :
    netAddrIsEqual addrA addrB = true ↔ addrA = addrB := by
  cases addrA
  cases addrB
  simp [netAddrIsEqual, and_assoc]

end UniversalNetwork
