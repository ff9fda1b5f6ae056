import Tcpcc.Control.Wire

/-!
# Attaching the TUN queue

The checks of `tcpcc_l3_attach_config` on the descriptor and on the configuration of the request.
-/

namespace Tcpcc.L3
open Control

structure Config where
  version : ℕ
  addressReserved : List UInt8
  bytes : List UInt8
  prefixLen : ℕ
  reserved : List UInt8
  deriving DecidableEq, Repr

def configSize : ℕ := 24

def Config.ofBytes (data : List UInt8) : Config where
  version := field data 0 1
  addressReserved := (data.drop 1).take 3
  bytes := (data.drop 4).take 16
  prefixLen := field data 20 1
  reserved := (data.drop 21).take 3

def anyByte (bytes : List UInt8) : Bool := bytes.any (· != 0)

def ipv6AddrAny (bytes : List UInt8) : Bool := bytes.all (· == 0)

def ipv6AddrIsMulticast (bytes : List UInt8) : Bool := bytes.head? == some 0xff

def attachCheck (attached : Bool) (hostFd : ℤ) (config : Config) : ℤ :=
  if attached then -EBUSY
  else if hostFd < 3 ∨ anyByte config.addressReserved ∨ anyByte config.reserved then -EINVAL
  else if config.version = 4 then
    if config.prefixLen = 0 ∨ 32 < config.prefixLen ∨ anyByte (config.bytes.drop 4) then -EINVAL
    else 0
  else if config.version = 6 then
    if config.prefixLen = 0 ∨ 128 < config.prefixLen ∨ ipv6AddrAny config.bytes ∨
        ipv6AddrIsMulticast config.bytes then -EINVAL
    else 0
  else -EAFNOSUPPORT

end Tcpcc.L3
