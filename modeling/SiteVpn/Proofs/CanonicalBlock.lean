import SiteVpn.Proofs.AddressGrammar
import SiteVpn.Proofs.BlockRange
import SiteVpn.Proofs.DeviceText

/-!
# Blocks are canonical

A block has one representation, whatever it was made from: a prefix length of at most 32 and an
address with the bits of the network and no others. So two blocks are one if they have the same
addresses, and what is written for a block is read as that block.

## Implementation notes

Whether an address has host bits is a question about single bits, and which addresses a block
has one about numbers. The bits of a masked address connect the two: masks are composed bit by
bit, and a block is determined by the numbers of its two ends.
-/

namespace SiteVpn

namespace PrefixLength

instance : Min PrefixLength where
  min p q := ⟨min p.val q.val, Nat.le_trans (Nat.min_le_left ..) p.le⟩

theorem val_injective : Function.Injective val := by
  rintro ⟨m, _⟩ ⟨n, _⟩ rfl
  rfl

theorem min_eq_left {p q : PrefixLength} (h : p.val ≤ q.val) : min p q = p :=
  val_injective (Nat.min_eq_left h)

theorem ofNat?_eq_some_iff {n : Nat} {p : PrefixLength} : ofNat? n = some p ↔ p.val = n := by
  constructor
  · intro h
    obtain ⟨_, h⟩ := Option.dite_none_right_eq_some.mp h
    rw [← Option.some.inj h]
  · rintro rfl
    exact p.ofNat?_val

/-- A prefix length is read from a number of eight bits. -/
theorem ofJson?_eq (j : Json) :
    (ofJson? j : Option PrefixLength) = (ofJson? j : Option UInt8).bind (ofNat? ·.toNat) := by
  change j.below? UInt8.size >>= ofNat? = ((j.below? UInt8.size).map UInt8.ofNat).bind _
  cases h : j.below? UInt8.size with
  | none => rfl
  | some n =>
      have hn : n < UInt8.size := by
        unfold Json.below? at h
        split at h
        · split at h
          · cases h
            assumption
          · cases h
        · cases h
      simp [UInt8.toNat_ofNat_of_lt' hn]

end PrefixLength

namespace Address

variable (x : Address) (p q : PrefixLength)

/-- Masking keeps the bits of the network and clears the others. -/
theorem testBit_mask (i : Nat) :
    (x.mask p).number.testBit i = (decide (32 - p.val ≤ i) && x.number.testBit i) := by
  rw [number_mask, PrefixLength.size, Nat.testBit_mul_two_pow, Nat.testBit_div_two_pow]
  by_cases hi : 32 - p.val ≤ i
  · rw [Nat.sub_add_cancel hi]
  · simp [hi]

/-- Of two masks the shorter prefix length counts. -/
theorem mask_mask_min : (x.mask q).mask p = x.mask (min p q) := by
  have hmin : (min p q).val = min p.val q.val := rfl
  rw [← number_inj]
  apply Nat.eq_of_testBit_eq
  intro i
  rw [testBit_mask, testBit_mask, testBit_mask, hmin, ← Bool.and_assoc, ← Bool.decide_and]
  congr 2
  exact propext (by omega)

end Address

namespace Cidr

/-- A block is the one of a prefix length around an address. -/
structure IsAround (c : Cidr) (x : Address) (n : Nat) : Prop where
  length_le : n ≤ 32
  length_eq : c.length.val = n
  /-- The bits of the network are those of the address. -/
  networkBits : ∀ i, 32 - n ≤ i → c.network.number.testBit i = x.number.testBit i
  noHostBits : ∀ i < 32 - n, c.network.number.testBit i = false

/-- The addresses of a block are those from its network to its broadcast address. -/
instance : Membership Address Cidr where
  mem c x := c.network.number ≤ x.number ∧ x.number ≤ c.broadcast.number

variable {c d : Cidr} {x : Address} {p : PrefixLength} {n : Nat}

theorem eq_of_parts (hnetwork : c.network = d.network) (hlength : c.length.val = d.length.val) :
    c = d := by
  obtain ⟨cn, cl, _⟩ := c
  obtain ⟨dn, dl, _⟩ := d
  obtain rfl : cn = dn := hnetwork
  obtain rfl : cl = dl := PrefixLength.val_injective hlength
  rfl

theorem isAround_of (x : Address) (p : PrefixLength) : (of x p).IsAround x p.val where
  length_le := p.le
  length_eq := rfl
  networkBits i hi := by
    change (x.mask p).number.testBit i = _
    rw [Address.testBit_mask, decide_eq_true hi, Bool.true_and]
  noHostBits i hi := by
    change (x.mask p).number.testBit i = false
    rw [Address.testBit_mask, decide_eq_false (Nat.not_le.mpr hi), Bool.false_and]

/-- The bits of a block determine it. -/
theorem eq_of_isAround (h : c.IsAround x p.val) : c = of x p := by
  have hof := isAround_of x p
  refine eq_of_parts (Address.number_inj.mp (Nat.eq_of_testBit_eq fun i => ?_)) h.length_eq
  by_cases hi : 32 - p.val ≤ i
  · rw [h.networkBits i hi, hof.networkBits i hi]
  · rw [h.noHostBits i (Nat.not_le.mp hi), hof.noHostBits i (Nat.not_le.mp hi)]

/-- There is a block around an address for every number that is a prefix length. -/
theorem map_ofNat?_eq_some_iff :
    (PrefixLength.ofNat? n).map (of x) = some c ↔ c.IsAround x n := by
  constructor
  · intro h
    obtain ⟨p, hp, rfl⟩ := Option.map_eq_some_iff.mp h
    obtain rfl := PrefixLength.ofNat?_eq_some_iff.mp hp
    exact isAround_of x p
  · intro h
    let p : PrefixLength := ⟨n, h.length_le⟩
    exact Option.map_eq_some_iff.mpr ⟨p, p.ofNat?_val, (eq_of_isAround (p := p) h).symm⟩

/-! ## The addresses of a block -/

theorem mem_iff_mask_eq : x ∈ c ↔ x.mask c.length = c.network := c.mask_eq_network_iff.symm

theorem network_mem (c : Cidr) : c.network ∈ c := mem_iff_mask_eq.mpr c.masked

theorem broadcast_mem (c : Cidr) : c.broadcast ∈ c :=
  ⟨by rw [number_broadcast]; exact Nat.le_add_right .., Nat.le_refl _⟩

/-- A block is determined by its addresses. -/
theorem eq_iff_forall_mem : c = d ↔ ∀ x, x ∈ c ↔ x ∈ d := by
  refine ⟨fun h x => by rw [h], fun h => ?_⟩
  -- each of the two ends is in both blocks, and the size gives the length
  have hstart : c.network.number = d.network.number :=
    Nat.le_antisymm ((h d.network).mpr d.network_mem).1 ((h c.network).mp c.network_mem).1
  have hend : c.broadcast.number = d.broadcast.number :=
    Nat.le_antisymm ((h c.broadcast).mp c.broadcast_mem).2 ((h d.broadcast).mpr d.broadcast_mem).2
  have hsize : c.length.size = d.length.size := by
    have hc := c.length.size_pos
    have hd := d.length.size_pos
    rw [number_broadcast, number_broadcast] at hend
    omega
  have hlength : 32 - c.length.val = 32 - d.length.val :=
    Nat.pow_right_injective (Nat.le_refl 2) hsize
  have hc := c.length.le
  have hd := d.length.le
  exact eq_of_parts (Address.number_inj.mp hstart) (by omega)

/-! ## Texts of blocks -/

theorem slash_not_mem_of_isText {text : List Char} (h : Address.IsText text x) : '/' ∉ text := by
  have hslash {f : List Char} {n : Nat} (h : Decimal.IsNumeral f n) : '/' ∉ f :=
    Decimal.not_mem_of_isNumeral (by decide) (by decide) h
  obtain ⟨a, b, c, d, rfl, ha, hb, hc, hd⟩ := h
  simp [hslash ha, hslash hb, hslash hc, hslash hd]

/-- What is written for an address and a prefix length is read as the block around them. -/
theorem read_written (x : Address) (p : PrefixLength) :
    read (toString x ++ "/" ++ toString p).toList = .ok (of x p) := by
  apply read_of_isText
  refine ⟨x.text.toList, Decimal.digits p.val, ?_, ?_, x.isText_text, Decimal.isNumeral_digits _⟩
  · change (x.text ++ "/" ++ Decimal.write p.val).toList = _
    simp
  · exact slash_not_mem_of_isText x.isText_text

theorem read_text (c : Cidr) : read (toString c).toList = .ok c := by
  conv_rhs => rw [← of_network c]
  exact read_written c.network c.length

/-- A block is read from the form of an address and a number that is a prefix length. -/
theorem ofJson?_eq_some_iff {j : Json} :
    ofJson? j = some c ↔
      ∃ given x, ∃ n : UInt8, j.record? [.fixed "ip", .fixed "prefix_len"] = some given ∧
        Json.required given "ip" = some x ∧ Json.required given "prefix_len" = some n ∧
        c.IsAround x n.toNat := by
  have hlength (given : List (String × Json)) :
      (Json.required given "prefix_len" : Option PrefixLength) =
        (Json.required given "prefix_len" : Option UInt8).bind (PrefixLength.ofNat? ·.toNat) := by
    rw [Json.required, Json.required]
    cases given.lookup "prefix_len" with
    | none => rfl
    | some j => exact PrefixLength.ofJson?_eq j
  change (do
    let given ← j.record? [.fixed "ip", .fixed "prefix_len"]
    return of (← Json.required given "ip") (← Json.required given "prefix_len")) = some c ↔ _
  simp only [hlength, bind, pure, Option.bind_eq_some_iff]
  constructor
  · rintro ⟨given, hgiven, x, hx, p, ⟨n, hn, hp⟩, hc⟩
    have haround := Option.map_eq_some_iff.mpr ⟨p, hp, Option.some.inj hc⟩
    exact ⟨given, x, n, hgiven, hx, hn, map_ofNat?_eq_some_iff.mp haround⟩
  · rintro ⟨given, x, n, hgiven, hx, hn, haround⟩
    obtain ⟨p, hp, rfl⟩ := Option.map_eq_some_iff.mp (map_ofNat?_eq_some_iff.mpr haround)
    exact ⟨given, hgiven, x, hx, p, ⟨n, hn, hp⟩, rfl⟩

/-- A block is read from the text of an address and the numeral of a prefix length. -/
theorem read_eq_ok_iff {text : List Char} :
    read text = .ok c ↔
      ∃ before after x n, text = before ++ '/' :: after ∧ '/' ∉ before ∧
        Address.IsText before x ∧ Decimal.IsNumeral after n ∧ c.IsAround x n := by
  rw [(read_eq_iff text).1]
  constructor
  · rintro ⟨x, p, ⟨before, after, htext, hbefore, hx, hp⟩, rfl⟩
    exact ⟨before, after, x, p.val, htext, hbefore, hx, hp, isAround_of x p⟩
  · rintro ⟨before, after, x, n, htext, hbefore, hx, hn, haround⟩
    let p : PrefixLength := ⟨n, haround.length_le⟩
    exact ⟨x, p, ⟨before, after, htext, hbefore, hx, hn⟩, eq_of_isAround (p := p) haround⟩

end Cidr

/-- Whatever a block was made from, it is the block around an address: it has a prefix length of
at most 32, the bits of the network and no host bits. That is so of a block of an address and a
prefix length, or a number, and of one that was read from a text or a JSON value; a number
beyond 32 makes no block. Two such blocks are one if they have the same addresses, and of two
masks the shorter counts. What is written for a block, or for an address and a prefix length, is
read as that block. -/
theorem blocks_are_canonical :
    (∀ x p c, c = Cidr.of x p ↔ c.IsAround x p.val) ∧
    (∀ x n c, (PrefixLength.ofNat? n).map (Cidr.of x) = some c ↔ c.IsAround x n) ∧
    (∀ text c, Cidr.read text = .ok c ↔
      ∃ before after x n, text = before ++ '/' :: after ∧ '/' ∉ before ∧
        Address.IsText before x ∧ Decimal.IsNumeral after n ∧ c.IsAround x n) ∧
    (∀ (j : Json) (c : Cidr), ofJson? j = some c ↔
      ∃ given x, ∃ n : UInt8, j.record? [.fixed "ip", .fixed "prefix_len"] = some given ∧
        Json.required given "ip" = some x ∧ Json.required given "prefix_len" = some n ∧
        c.IsAround x n.toNat) ∧
    (∀ x y p q, Cidr.of x p = Cidr.of y q ↔ ∀ z, z ∈ Cidr.of x p ↔ z ∈ Cidr.of y q) ∧
    (∀ (x : Address) p q, (x.mask q).mask p = x.mask (min p q)) ∧
    (∀ c : Cidr, Cidr.read (toString c).toList = .ok c) ∧
    ∀ (x : Address) (p : PrefixLength),
      Cidr.read (toString x ++ "/" ++ toString p).toList = .ok (.of x p) :=
  ⟨fun _ _ _ => ⟨fun h => h ▸ Cidr.isAround_of _ _, Cidr.eq_of_isAround⟩,
    fun _ _ _ => Cidr.map_ofNat?_eq_some_iff, fun _ _ => Cidr.read_eq_ok_iff,
    fun _ _ => Cidr.ofJson?_eq_some_iff, fun _ _ _ _ => Cidr.eq_iff_forall_mem,
    fun x p q => x.mask_mask_min p q, Cidr.read_text, Cidr.read_written⟩

end SiteVpn
