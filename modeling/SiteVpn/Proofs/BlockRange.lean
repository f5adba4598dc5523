import Mathlib.Algebra.Group.Nat.Defs
import SiteVpn.Address.Cidr

/-!
# Blocks as ranges of addresses

An address is read as a number, and a prefix length as the number of addresses that a block of
it has, which is a power of two. To mask an address is to go down to the next multiple of that
number. So the addresses of a block are the numbers from its network address to its broadcast
address, and its ends lie between them.

## Implementation notes

Masks are words, and whether the operations on them lose bits is a question about numbers. So
every word is described by its number once, and after that there is only arithmetic.
-/

namespace SiteVpn

/-- Clearing the lower bits of a number goes down to the next multiple. -/
theorem and_two_pow_sub_two_pow {n k x : Nat} (hk : k ≤ n) (hx : x < 2 ^ n) :
    x &&& (2 ^ n - 2 ^ k) = x / 2 ^ k * 2 ^ k := by
  have hmask : 2 ^ n - 2 ^ k = (2 ^ (n - k) - 1) * 2 ^ k := by
    rw [Nat.sub_mul, ← Nat.pow_add, Nat.sub_add_cancel hk, Nat.one_mul]
  apply Nat.eq_of_testBit_eq
  intro i
  rw [hmask, Nat.testBit_and, Nat.testBit_mul_two_pow, Nat.testBit_mul_two_pow,
    Nat.testBit_two_pow_sub_one, Nat.testBit_div_two_pow]
  by_cases hki : k ≤ i
  · rw [Nat.sub_add_cancel hki]
    by_cases hi : i < n
    · simp [hki, show i - k < n - k by omega]
    · have hzero : x.testBit i = false :=
        Nat.testBit_lt_two_pow (Nat.lt_of_lt_of_le hx (Nat.pow_le_pow_right (by decide) (by omega)))
      simp [hzero]
  · simp [hki]

namespace Address

/-- The address as a number. -/
def number (x : Address) : Nat := x.toWord.toNat

theorem number_lt (x : Address) : x.number < 2 ^ 32 := x.toWord.toNat_lt

@[simp] theorem number_ofWord (w : UInt32) : (ofWord w).number = w.toNat := by
  rw [number, toWord_ofWord]

theorem number_inj {x y : Address} : x.number = y.number ↔ x = y := by
  constructor
  · intro h
    rw [← ofWord_toWord x, ← ofWord_toWord y, UInt32.toNat_inj.mp h]
  · rintro rfl
    rfl

end Address

namespace PrefixLength

/-- How many addresses a block of the prefix length has. -/
def size (p : PrefixLength) : Nat := 2 ^ (32 - p.val)

theorem size_pos (p : PrefixLength) : 0 < p.size := Nat.two_pow_pos _

theorem size_dvd (p : PrefixLength) : p.size ∣ 2 ^ 32 := Nat.pow_dvd_pow 2 (by omega)

theorem size_le (p : PrefixLength) : p.size ≤ 2 ^ 32 := Nat.le_of_dvd (by decide) p.size_dvd

theorem four_le_size {p : PrefixLength} (h : p.val ≤ 30) : 4 ≤ p.size :=
  Nat.pow_le_pow_right (show 0 < 2 by decide) (show 2 ≤ 32 - p.val by omega)

theorem two_le_size {p : PrefixLength} (h : p.val ≠ 32) : 2 ≤ p.size :=
  Nat.pow_le_pow_right (show 0 < 2 by decide) (show 1 ≤ 32 - p.val by have := p.le; omega)

theorem size_eq_one {p : PrefixLength} (h : p.val = 32) : p.size = 1 := by
  rw [size, h, Nat.sub_self, Nat.pow_zero]

/-- The mask has the bits of the network and no others, at every prefix length. -/
theorem toNat_mask (p : PrefixLength) : p.mask.toNat = 2 ^ 32 - p.size := by
  have hpos := p.size_pos
  have hle := p.size_le
  have hlength := p.le
  unfold mask
  split
  · next h => rw [size, h]; rfl
  · next h =>
      have hshift : (UInt32.ofNat (32 - p.val)).toNat % 32 = 32 - p.val := by
        rw [UInt32.toNat_ofNat']
        omega
      rw [UInt32.toNat_shiftLeft, hshift, Nat.shiftLeft_eq, ← size]
      change 4294967295 * p.size % 4294967296 = 4294967296 - p.size
      simp only [Nat.reducePow] at hle
      omega

end PrefixLength

namespace Address

variable (x : Address) (p : PrefixLength)

/-- Masking goes down to the next multiple of the size of a block. -/
theorem number_mask : (x.mask p).number = x.number / p.size * p.size := by
  rw [mask, number_ofWord, UInt32.toNat_and, p.toNat_mask]
  exact and_two_pow_sub_two_pow (by omega) x.number_lt

end Address

namespace Cidr

variable (c : Cidr)

/-- The network address of a block is a multiple of its size. -/
theorem size_dvd_network : c.length.size ∣ c.network.number := by
  rw [← c.masked, Address.number_mask]
  exact Nat.dvd_mul_left _ _

/-- A block ends where its size says. -/
theorem number_broadcast : c.broadcast.number = c.network.number + (c.length.size - 1) := by
  have hpos := c.length.size_pos
  have hle := c.length.size_le
  obtain ⟨m, hm⟩ := c.size_dvd_network
  have hhost : (~~~c.length.mask).toNat = c.length.size - 1 := by
    rw [UInt32.toNat_not, PrefixLength.toNat_mask]
    change 4294967296 - 1 - (4294967296 - c.length.size) = c.length.size - 1
    simp only [Nat.reducePow] at hle
    omega
  rw [broadcast, Address.number_ofWord, UInt32.toNat_or, hhost]
  change c.network.number ||| (c.length.size - 1) = _
  rw [hm]
  exact (Nat.two_pow_add_eq_or_of_lt (Nat.sub_one_lt (Nat.ne_of_gt hpos)) m).symm

/-- The addresses of a block are those from its network to its broadcast address. -/
theorem mask_eq_network_iff {x : Address} :
    x.mask c.length = c.network ↔
      c.network.number ≤ x.number ∧ x.number ≤ c.broadcast.number := by
  have hpos := c.length.size_pos
  obtain ⟨m, hm⟩ := c.size_dvd_network
  rw [← Address.number_inj, Address.number_mask, number_broadcast, hm, Nat.mul_comm _ m,
    Nat.mul_left_inj (Nat.ne_of_gt hpos), Nat.div_eq_iff hpos, Nat.add_sub_assoc hpos]

/-! ### The ends of a block -/

/-- Where there is room for it, the first host follows the network address. -/
theorem number_firstHost (h : c.length.val ≤ 30) :
    c.firstHost.number = c.network.number + 1 := by
  have hsize := PrefixLength.four_le_size h
  have hbroadcast := c.number_broadcast
  have hlt := c.broadcast.number_lt
  have hroom : c.network.number + 1 < 2 ^ 32 := by omega
  rw [firstHost, if_neg (by omega), Address.number_ofWord, UInt32.toNat_add]
  exact Nat.mod_eq_of_lt hroom

/-- Where there is room for it, the last host precedes the broadcast address. -/
theorem number_lastHost (h : c.length.val ≤ 30) :
    c.lastHost.number = c.broadcast.number - 1 := by
  have hsize := PrefixLength.four_le_size h
  have hbroadcast := c.number_broadcast
  have hroom : 1 ≤ c.broadcast.toWord := by
    apply UInt32.le_iff_toNat_le.mpr
    change 1 ≤ c.broadcast.number
    omega
  rw [lastHost, if_neg (by omega), if_neg (by omega), Address.number_ofWord,
    UInt32.toNat_sub_of_le _ _ hroom]
  rfl

theorem firstHost_eq_network (h : 31 ≤ c.length.val) : c.firstHost = c.network := if_pos h

theorem lastHost_eq_broadcast (h : 31 ≤ c.length.val) : c.lastHost = c.broadcast := by
  unfold lastHost
  split
  · next hfull =>
      -- a block of one address ends where it starts
      rw [← Address.number_inj, number_broadcast, PrefixLength.size_eq_one hfull, Nat.sub_self,
        Nat.add_zero]
  · next hfull => rw [if_pos (by have := c.length.le; omega)]

end Cidr

end SiteVpn
