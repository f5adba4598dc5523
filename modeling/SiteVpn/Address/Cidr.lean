import SiteVpn.Address.Basic

/-!
# Address blocks

A prefix length is at most 32, and a block is an address without host bits
together with a prefix length: both are part of the types, so that whatever
builds a block masks its address. An interface address keeps its host bits.
The ends of a link block are its first and last host addresses, which are the
ends of the block itself where there is no room for a network and a broadcast
address.
-/

namespace SiteVpn

/-- The length of a network prefix. -/
structure PrefixLength where
  val : Nat
  le : val ≤ 32
deriving DecidableEq, Repr

namespace PrefixLength

instance : Inhabited PrefixLength := ⟨⟨32, by decide⟩⟩

/-- The prefix length of a single address. -/
def full : PrefixLength := ⟨32, by decide⟩

/-- The account given of a prefix length beyond 32. -/
def rangeMessage (n : Nat) : String := "bad IPv4 prefix length: " ++ Decimal.write n

/-- The prefix length of a number that is at most 32. -/
def ofNat? (n : Nat) : Option PrefixLength :=
  if h : n ≤ 32 then some ⟨n, h⟩ else none

instance : Ord PrefixLength := ⟨fun p q => compare p.val q.val⟩

instance : ToString PrefixLength := ⟨fun p => Decimal.write p.val⟩

/-- The word whose one bits are the network bits. -/
def mask (p : PrefixLength) : UInt32 :=
  if p.val = 0 then 0 else 0xFFFFFFFF <<< UInt32.ofNat (32 - p.val)

end PrefixLength

/-- An address with its host bits cleared. -/
def Address.mask (x : Address) (p : PrefixLength) : Address :=
  ofWord (x.toWord &&& p.mask)

/-- Masking twice with one prefix length is masking once. -/
theorem Address.mask_mask (x : Address) (p : PrefixLength) :
    (x.mask p).mask p = x.mask p := by
  simp [Address.mask, UInt32.and_assoc]

/-- A block of addresses. -/
structure Cidr where
  network : Address
  length : PrefixLength
  masked : network.mask length = network
deriving DecidableEq

namespace Cidr

/-- The block of a prefix length around an address. -/
def of (x : Address) (p : PrefixLength) : Cidr := ⟨x.mask p, p, x.mask_mask p⟩

instance : Inhabited Cidr := ⟨of default default⟩

/-- The last address of the block. -/
def broadcast (c : Cidr) : Address := .ofWord (c.network.toWord ||| ~~~ c.length.mask)

/-- The lowest address of the block that a host may have. -/
def firstHost (c : Cidr) : Address :=
  if 31 ≤ c.length.val then c.network else .ofWord (c.network.toWord + 1)

/-- The highest address of the block that a host may have. -/
def lastHost (c : Cidr) : Address :=
  if c.length.val = 32 then c.network
  else if c.length.val = 31 then c.broadcast
  else .ofWord (c.broadcast.toWord - 1)

/-- The two ends of a link. -/
def ends (c : Cidr) : Address × Address := (c.firstHost, c.lastHost)

/-- Blocks are compared by their network addresses and then by their lengths. -/
instance : Ord Cidr where
  compare x y :=
    if x.network = y.network then compare x.length y.length
    else compare x.network y.network

/-- The network address and the prefix length after a slash. -/
def text (c : Cidr) : String := c.network.text ++ "/" ++ Decimal.write c.length.val

instance : ToString Cidr := ⟨text⟩

/-- Why a text is not a block. -/
inductive ReadError where
  | noSlash
  | address (cause : Address.ReadError)
  | length (cause : Decimal.NumeralError)
  | lengthRange (n : Nat)
deriving DecidableEq, Repr

/-- The account given of a text that is not a block. -/
def ReadError.message : ReadError → String
  | .noSlash => "no '/' found"
  | .address cause => "bad IP: " ++ cause.message
  | .length cause => "bad prefix length: " ++ cause.message
  | .lengthRange n => PrefixLength.rangeMessage n

/-- Reads an address and a prefix length around the first slash. -/
def read (text : List Char) : Except ReadError Cidr :=
  match Text.splitAtFirst '/' text with
  | none => .error .noSlash
  | some (before, after) =>
    match Address.read before with
    | .error e => .error (.address e)
    | .ok x =>
      match Decimal.read 256 after with
      | .error e => .error (.length e)
      | .ok n =>
        match PrefixLength.ofNat? n with
        | none => .error (.lengthRange n)
        | some p => .ok (of x p)

end Cidr

/-- The address of an interface, host bits included. -/
structure InterfaceAddress where
  ip : Address
  length : PrefixLength
deriving DecidableEq, Inhabited

namespace InterfaceAddress

/-- The address of an interface that is alone in its block. -/
def host (x : Address) : InterfaceAddress := ⟨x, .full⟩

instance : Ord InterfaceAddress where
  compare x y := (compare x.ip y.ip).then (compare x.length y.length)

/-- The address and the prefix length after a slash. -/
def text (i : InterfaceAddress) : String := i.ip.text ++ "/" ++ Decimal.write i.length.val

instance : ToString InterfaceAddress := ⟨text⟩

end InterfaceAddress

end SiteVpn
