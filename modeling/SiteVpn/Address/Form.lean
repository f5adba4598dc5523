import SiteVpn.Address.Cidr
import SiteVpn.Json.Form

/-!
# The JSON form of addresses

An address is written as its four octets. A prefix length beyond 32 is refused,
and the address of a block is masked when it is read.
-/

namespace SiteVpn

/-- The octets of an address. -/
def Address.octetForm (x : Address) : Json :=
  .array [toJson x.a, toJson x.b, toJson x.c, toJson x.d]

/-- The address of four octets. -/
def Address.ofOctetForm? : Json → Option Address
  | .array [a, b, c, d] => do
    return ⟨← ofJson? a, ← ofJson? b, ← ofJson? c, ← ofJson? d⟩
  | _ => none

instance : JsonForm Address where
  toJson x := .object [("inner", x.octetForm)]
  ofJson? j := do
    let given ← j.record? [.fixed "inner"]
    given.lookup "inner" >>= Address.ofOctetForm?

instance : JsonForm PrefixLength where
  toJson p := .integer p.val
  ofJson? j := j.below? UInt8.size >>= PrefixLength.ofNat?

instance : JsonForm Cidr where
  toJson c := .object [("ip", toJson c.network), ("prefix_len", toJson c.length)]
  ofJson? j := do
    let given ← j.record? [.fixed "ip", .fixed "prefix_len"]
    return Cidr.of (← Json.required given "ip") (← Json.required given "prefix_len")

instance : JsonForm InterfaceAddress where
  toJson i := .object [("ip", toJson i.ip), ("prefix_len", toJson i.length)]
  ofJson? j := do
    let given ← j.record? [.fixed "ip", .fixed "prefix_len"]
    return ⟨← Json.required given "ip", ← Json.required given "prefix_len"⟩

end SiteVpn
