import CaptureFlow.Address.Ipv6

/-!
# IP addresses and endpoints

An address of either version, and an address with a port. The port of an IPv6
endpoint stands behind brackets, so that every endpoint has a text of its own.
-/

namespace CaptureFlow

/-- An IP address of either version. -/
inductive IpAddress where
  /-- An IPv4 address. -/
  | v4 (address : Ipv4.Address)
  /-- An IPv6 address. -/
  | v6 (address : Ipv6.Address)
  deriving DecidableEq

/-- The text of an address of either version. -/
def IpAddress.text : IpAddress → String
  | v4 address => address.text
  | v6 address => address.text

/-- One end of a transport connection. -/
structure Endpoint where
  /-- The address of the host. -/
  address : IpAddress
  /-- The port on that host. -/
  port : UInt16
  deriving DecidableEq

/-- The text of an endpoint. -/
def Endpoint.text (endpoint : Endpoint) : String :=
  let port := Numeral.decimal endpoint.port.toNat
  match endpoint.address with
  | .v4 address => s!"{address.text}:{port}"
  | .v6 address => s!"[{address.text}]:{port}"

end CaptureFlow
