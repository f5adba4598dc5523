import SiteVpn.Proofs.Application
import SiteVpn.Proofs.BlockRange

/-!
# The ends of link blocks

The two addresses inside a tunnel are the ends of its link block. No arithmetic on the way to
them leaves the range of addresses, whatever the prefix length, and they never leave the block:
they lie strictly inside it where there is room for that, and are its own ends where there is
not. Only a block of one address has one end.
-/

namespace SiteVpn

/-- How a block and its ends lie among the numbers of addresses. -/
structure Cidr.Extent (c : Cidr) : Prop where
  /-- Where a word is shifted for the mask, it is by fewer places than it has. -/
  shift : c.length.mask = 0 ∧ c.length.val = 0 ∨
    ∃ n < 32, n = 32 - c.length.val ∧ c.length.mask = 0xFFFFFFFF <<< UInt32.ofNat n
  mask : c.length.mask.toNat = 2 ^ 32 - 2 ^ (32 - c.length.val)
  span : c.broadcast.number - c.network.number = 2 ^ (32 - c.length.val) - 1
  increment : c.length.val ≤ 30 →
    c.network.number + 1 < 2 ^ 32 ∧ c.firstHost.number = c.network.number + 1
  decrement : c.length.val ≤ 30 →
    1 ≤ c.broadcast.number ∧ c.lastHost.number = c.broadcast.number - 1
  network_le_firstHost : c.network.number ≤ c.firstHost.number
  firstHost_le_lastHost : c.firstHost.number ≤ c.lastHost.number
  lastHost_le_broadcast : c.lastHost.number ≤ c.broadcast.number
  strictlyInside : c.length.val ≤ 30 →
    c.network.number < c.firstHost.number ∧ c.lastHost.number < c.broadcast.number
  withoutRoom : 31 ≤ c.length.val → c.firstHost = c.network ∧ c.lastHost = c.broadcast
  firstHost_lt_lastHost : c.length.val ≠ 32 → c.firstHost.number < c.lastHost.number

namespace Cidr

variable (c : Cidr)

theorem shift_mask :
    c.length.mask = 0 ∧ c.length.val = 0 ∨
      ∃ n < 32, n = 32 - c.length.val ∧ c.length.mask = 0xFFFFFFFF <<< UInt32.ofNat n := by
  unfold PrefixLength.mask
  split
  · next h => exact .inl ⟨rfl, h⟩
  · next h => exact .inr ⟨32 - c.length.val, by omega, rfl, rfl⟩

theorem extent : c.Extent := by
  have hspan := c.number_broadcast
  have hlt := c.broadcast.number_lt
  have hroom (h : c.length.val ≤ 30) : 4 ≤ c.length.size ∧
      c.firstHost.number = c.network.number + 1 ∧ c.lastHost.number = c.broadcast.number - 1 :=
    ⟨PrefixLength.four_le_size h, c.number_firstHost h, c.number_lastHost h⟩
  have hnone (h : 31 ≤ c.length.val) : c.firstHost.number = c.network.number ∧
      c.lastHost.number = c.broadcast.number := by
    rw [c.firstHost_eq_network h, c.lastHost_eq_broadcast h]
    exact ⟨rfl, rfl⟩
  have hpair (h : c.length.val ≠ 32) : 2 ≤ c.length.size := PrefixLength.two_le_size h
  constructor
  case shift => exact c.shift_mask
  case mask => exact c.length.toNat_mask
  case span => rw [hspan, Nat.add_sub_cancel_left, PrefixLength.size]
  case withoutRoom => exact fun h => ⟨c.firstHost_eq_network h, c.lastHost_eq_broadcast h⟩
  all_goals omega

/-- Both ends are addresses of the block. -/
theorem mask_ends :
    c.firstHost.mask c.length = c.network ∧ c.lastHost.mask c.length = c.network := by
  have h := c.extent
  have hfirst := Nat.le_trans h.firstHost_le_lastHost h.lastHost_le_broadcast
  have hlast := Nat.le_trans h.network_le_firstHost h.firstHost_le_lastHost
  exact ⟨c.mask_eq_network_iff.mpr ⟨h.network_le_firstHost, hfirst⟩,
    c.mask_eq_network_iff.mpr ⟨hlast, h.lastHost_le_broadcast⟩⟩

/-- Only a block of one address has one end. -/
theorem firstHost_eq_lastHost_iff : c.firstHost = c.lastHost ↔ c.length.val = 32 := by
  constructor
  · intro h
    by_contra hne
    exact Nat.ne_of_lt (c.extent.firstHost_lt_lastHost hne) (congrArg Address.number h)
  · intro hfull
    obtain ⟨hfirst, hlast⟩ := c.extent.withoutRoom (by omega)
    rw [hfirst, hlast, ← Address.number_inj, number_broadcast, PrefixLength.size_eq_one hfull,
      Nat.sub_self, Nat.add_zero]

end Cidr

namespace Tunnel

variable {id : String} {salt : Salt} {s : TunnelSpec} {t : Tunnel}

/-- The addresses inside a tunnel are the ends of its block. -/
theorem exists_insideBlock_of_ofSpec (h : ofSpec id salt s = .ok t) :
    ∃ c, insideBlock id s = .ok c ∧ t.insideLength = c.length ∧
      t.gatewayInside = c.firstHost ∧ t.customerInside = c.lastHost := by
  obtain ⟨c, hc, h⟩ := bind_eq_ok.mp h
  iterate 8 obtain ⟨_, -, h⟩ := bind_eq_ok.mp h
  obtain rfl := Except.ok.inj h
  exact ⟨c, hc, rfl, rfl, rfl⟩

end Tunnel

/-- Nothing is lost in the arithmetic of blocks: a mask is what its length says, a block spans as
many addresses as its length leaves, and its ends are in it and differ unless it has only one
address. So the two addresses inside a tunnel are in the tunnel's link block, by the prefix
length that the tunnel keeps, and are one address only for a block of one. -/
theorem link_ends_stay_inside :
    (∀ c : Cidr, c.Extent) ∧
    ∀ (id : String) (salt : Salt) (s : TunnelSpec) (t : Tunnel),
      Tunnel.ofSpec id salt s = .ok t →
        ∃ c, Tunnel.insideBlock id s = .ok c ∧ t.insideLength = c.length ∧
          t.gatewayInside.mask t.insideLength = c.network ∧
          t.customerInside.mask t.insideLength = c.network ∧
          (t.gatewayInside = t.customerInside ↔ c.length.val = 32) := by
  refine ⟨Cidr.extent, fun id salt s t h => ?_⟩
  obtain ⟨c, hc, hlength, hgateway, hcustomer⟩ := Tunnel.exists_insideBlock_of_ofSpec h
  rw [hlength, hgateway, hcustomer]
  exact ⟨c, hc, rfl, c.mask_ends.1, c.mask_ends.2, c.firstHost_eq_lastHost_iff⟩

/-- In a block of two addresses both are ends, and the host bits of its text do not matter. -/
theorem link_ends_stay_inside_two_addresses :
    let block : Cidr := .of ⟨169, 254, 10, 7⟩ ⟨31, by decide⟩
    let t := oneTunnel block
    Tunnel.ofSpec "vpn-1" ⟨"00"⟩ ⟨0, oneTunnelElement, oneTunnelOptions "169.254.10.7/31"⟩ = .ok t ∧
      t.gatewayInside = ⟨169, 254, 10, 6⟩ ∧
      t.gatewayInside.mask t.insideLength = t.customerInside.mask t.insideLength ∧
      t.gatewayInside ≠ t.customerInside := by
  intro block t
  have hspec : Tunnel.ofSpec "vpn-1" ⟨"00"⟩
      ⟨0, oneTunnelElement, oneTunnelOptions "169.254.10.7/31"⟩ = .ok t :=
    ofSpec_oneTunnel "vpn-1" ⟨"00"⟩ rfl
  obtain ⟨c, -, hlength, hgateway, hcustomer, hends⟩ := link_ends_stay_inside.2 _ _ _ _ hspec
  refine ⟨hspec, by decide, hgateway.trans hcustomer.symm, fun heq => ?_⟩
  have hfull : t.insideLength.val = 32 := by rw [hlength, hends.mp heq]
  exact absurd hfull (by decide)

end SiteVpn
