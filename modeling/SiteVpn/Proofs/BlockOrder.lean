import SiteVpn.Proofs.CanonicalBlock

/-!
# The order of blocks

Addresses are ordered as their numbers, and blocks as the numbers of their network addresses and
then as their prefix lengths. Blocks do not overlap: of two that share an address one is inside
the other, and the outer one comes first. So in a sorted list the blocks inside a block follow
it without a gap.

## Implementation notes

The numbers of an order are put together to one number, so the laws of an order are those of
numbers. Which of two blocks with a common address is inside the other depends on their lengths
only, since a mask that is taken after a longer one clears what the longer one left.
-/

namespace SiteVpn

/-- Pairs of numbers of which the second stays below a bound are ordered as one number. -/
theorem compare_mul_add {k a b a' b' : Nat} (hb : b < k) (hb' : b' < k) :
    compare (a * k + b) (a' * k + b') = (compare a a').then (compare b b') := by
  rcases Nat.lt_trichotomy a a' with h | rfl | h
  · have hle : (a + 1) * k ≤ a' * k := Nat.mul_le_mul_right k h
    rw [Nat.add_mul, Nat.one_mul] at hle
    rw [Nat.compare_eq_lt.mpr h, Nat.compare_eq_lt.mpr (by omega)]
    rfl
  · rw [Nat.compare_eq_eq.mpr rfl, Ordering.eq_then]
    simp only [Nat.compare_eq_ite_lt, Nat.add_lt_add_iff_left]
  · have hle : (a' + 1) * k ≤ a * k := Nat.mul_le_mul_right k h
    rw [Nat.add_mul, Nat.one_mul] at hle
    rw [Nat.compare_eq_gt.mpr h, Nat.compare_eq_gt.mpr (by omega)]
    rfl

/-! ## Addresses -/

namespace Address

theorem compare_octet (a b : UInt8) : compare a b = compare a.toNat b.toNat := by
  change compareOfLessAndEq a b = compareOfLessAndEq a.toNat b.toNat
  simp only [compareOfLessAndEq, UInt8.lt_iff_toNat_lt, UInt8.toNat_inj]

/-- The octets from the left are the places of a number. -/
theorem compare_eq (x y : Address) : compare x y = compare x.number y.number := by
  have hx (z : Address) : z.number =
      ((z.a.toNat * 256 + z.b.toNat) * 256 + z.c.toNat) * 256 + z.d.toNat := by
    rw [number, toNat_toWord]
    omega
  calc
    compare x y =
        (compare x.a y.a).then ((compare x.b y.b).then ((compare x.c y.c).then
          (compare x.d y.d))) := rfl
    _ = (((compare x.a.toNat y.a.toNat).then (compare x.b.toNat y.b.toNat)).then
          (compare x.c.toNat y.c.toNat)).then (compare x.d.toNat y.d.toNat) := by
        simp only [compare_octet, Ordering.then_assoc]
    _ = compare x.number y.number := by
        rw [hx x, hx y, compare_mul_add x.d.toNat_lt y.d.toNat_lt,
          compare_mul_add x.c.toNat_lt y.c.toNat_lt, compare_mul_add x.b.toNat_lt y.b.toNat_lt]

theorem compare_eq_lt_iff {x y : Address} : compare x y = .lt ↔ x.toWord < y.toWord := by
  rw [compare_eq, Nat.compare_eq_lt]
  exact UInt32.lt_iff_toNat_lt.symm

end Address

/-! ## Blocks -/

namespace Cidr

/-- The number that decides the place of a block. -/
def key (c : Cidr) : Nat := c.network.number * 33 + c.length.val

variable {c d e : Cidr} {x : Address}

theorem compare_eq_then (c d : Cidr) :
    compare c d =
      (compare c.network.number d.network.number).then (compare c.length.val d.length.val) := by
  change (if c.network = d.network then compare c.length.val d.length.val
    else compare c.network d.network) = _
  by_cases h : c.network = d.network
  · rw [if_pos h, h, Nat.compare_eq_eq.mpr rfl, Ordering.eq_then]
  · rw [if_neg h, Address.compare_eq]
    rcases Nat.lt_trichotomy c.network.number d.network.number with hlt | heq | hgt
    · rw [Nat.compare_eq_lt.mpr hlt]
      rfl
    · exact absurd (Address.number_inj.mp heq) h
    · rw [Nat.compare_eq_gt.mpr hgt]
      rfl

theorem compare_eq (c d : Cidr) : compare c d = compare c.key d.key := by
  rw [compare_eq_then, key, key, compare_mul_add] <;> exact Nat.lt_succ_of_le (PrefixLength.le _)

theorem key_injective : Function.Injective key := by
  intro c d h
  have hc := c.length.le
  have hd := d.length.le
  rw [key, key] at h
  exact eq_of_parts (Address.number_inj.mp (by omega)) (by omega)

instance : Std.TransOrd Cidr where
  eq_swap {c d} := by
    rw [compare_eq c d, compare_eq d c]
    exact Std.OrientedCmp.eq_swap
  isLE_trans {c d e} hcd hde := by
    rw [compare_eq] at hcd hde ⊢
    exact Std.TransCmp.isLE_trans hcd hde

theorem compare_eq_eq_iff : compare c d = .eq ↔ c = d := by
  rw [compare_eq, Nat.compare_eq_eq]
  exact key_injective.eq_iff

/-! ### Blocks inside blocks -/

instance : HasSubset Cidr := ⟨fun c d => ∀ x, x ∈ c → x ∈ d⟩

instance : HasSSubset Cidr := ⟨fun c d => c ⊆ d ∧ ¬ d ⊆ c⟩

/-- A block is inside another if its two ends are. -/
theorem subset_iff :
    c ⊆ d ↔ d.network.number ≤ c.network.number ∧ c.broadcast.number ≤ d.broadcast.number := by
  constructor
  · intro h
    exact ⟨(h _ c.network_mem).1, (h _ c.broadcast_mem).2⟩
  · rintro ⟨hnetwork, hbroadcast⟩ x hx
    exact ⟨Nat.le_trans hnetwork hx.1, Nat.le_trans hx.2 hbroadcast⟩

instance (c d : Cidr) : Decidable (c ⊆ d) := decidable_of_iff' _ subset_iff

instance (c d : Cidr) : Decidable (c ⊂ d) := inferInstanceAs (Decidable (c ⊆ d ∧ ¬ d ⊆ c))

theorem eq_of_subset_of_subset (h : c ⊆ d) (h' : d ⊆ c) : c = d :=
  eq_iff_forall_mem.mpr fun x => ⟨h x, h' x⟩

/-- Of two blocks with a common address the longer prefix is inside the other. -/
theorem subset_of_mem (hc : x ∈ c) (hd : x ∈ d) (hlength : c.length.val ≤ d.length.val) :
    d ⊆ c := by
  have hmask {y : Address} (hy : y ∈ d) : y.mask c.length = d.network.mask c.length := by
    rw [← mem_iff_mask_eq.mp hy, Address.mask_mask_min, PrefixLength.min_eq_left hlength]
  intro y hy
  rw [mem_iff_mask_eq, hmask hy, ← hmask hd, mem_iff_mask_eq.mp hc]

/-- Two blocks have no address in common, or one is inside the other. -/
theorem disjoint_or_subset (c d : Cidr) : (∀ x, ¬ (x ∈ c ∧ x ∈ d)) ∨ c ⊆ d ∨ d ⊆ c := by
  by_cases h : ∃ x, x ∈ c ∧ x ∈ d
  · obtain ⟨x, hc, hd⟩ := h
    rcases Nat.le_total c.length.val d.length.val with hle | hle
    · exact .inr (.inr (subset_of_mem hc hd hle))
    · exact .inr (.inl (subset_of_mem hd hc hle))
  · exact .inl (not_exists.mp h)

/-- The outer block comes first. -/
theorem compare_eq_lt_of_ssubset (h : c ⊂ d) : compare d c = .lt := by
  have hlength : d.length.val ≤ c.length.val := by
    by_contra hlt
    exact h.2 (subset_of_mem c.network_mem (h.1 _ c.network_mem) (by omega))
  have hne : d.key ≠ c.key := by
    intro hkey
    obtain rfl := key_injective hkey
    exact h.2 h.1
  have hstart : d.network.number ≤ c.network.number := (subset_iff.mp h.1).1
  rw [compare_eq, Nat.compare_eq_lt]
  unfold key at hne ⊢
  omega

/-- A block between a block and one inside of it is inside of it, too. -/
theorem ssubset_of_between (hcd : compare c d = .lt) (hde : (compare d e).isLE) (hec : e ⊂ c) :
    d ⊂ c := by
  have hne : c ≠ d := by
    rintro rfl
    rw [compare_eq_eq_iff.mpr rfl] at hcd
    cases hcd
  have hstart : d.network ∈ c := by
    have hc := c.length.le
    have hd := d.length.le
    have he := e.length.le
    have hend : e.network.number ≤ c.broadcast.number := (hec.1 _ e.network_mem).2
    rw [compare_eq, Nat.compare_eq_lt] at hcd
    rw [compare_eq, Nat.isLE_compare] at hde
    unfold key at hcd hde
    exact ⟨by omega, by omega⟩
  rcases disjoint_or_subset c d with hdisjoint | hsubset | hsubset
  · exact absurd ⟨hstart, d.network_mem⟩ (hdisjoint _)
  · -- the outer one of the two would come first
    have hdc := compare_eq_lt_of_ssubset ⟨hsubset, fun h => hne (eq_of_subset_of_subset hsubset h)⟩
    rw [Std.OrientedCmp.gt_of_lt hcd] at hdc
    cases hdc
  · exact ⟨hsubset, fun h => hne (eq_of_subset_of_subset h hsubset)⟩

end Cidr

/-! ## Sorted lists -/

/-- Where among some elements of a list those with a property stand before the others, they can
be taken from the list one after the other. -/
theorem filter_eq_append {α : Type} {p q r s : α → Prop} [DecidablePred p] [DecidablePred q]
    [DecidablePred r] [DecidablePred s] {xs : List α}
    (h : xs.Pairwise fun x y => p x → p y → q y → q x) (hr : ∀ x, r x ↔ p x ∧ q x)
    (hs : ∀ x, s x ↔ p x ∧ ¬ q x) :
    xs.filter p = xs.filter r ++ xs.filter s := by
  induction h with
  | nil => rfl
  | @cons x xs hx _ ih =>
      simp only [List.filter_cons, decide_eq_true_eq, hr x, hs x]
      by_cases hp : p x
      · by_cases hq : q x
        · simp [hp, hq, ih]
        · have hxs : xs.filter r = [] := by
            rw [List.filter_eq_nil_iff]
            intro y hy hry
            obtain ⟨hpy, hqy⟩ := (hr y).mp (of_decide_eq_true hry)
            exact hq (hx y hy hp hpy hqy)
          simp [hp, hq, ih, hxs]
      · simp [hp, ih]

namespace Cidr

/-- A sorted list goes through what comes before a block, the block itself, what is inside of it
and what comes after all that. -/
theorem eq_append_of_sorted {blocks : List Cidr}
    (hsorted : blocks.Pairwise fun c d => (compare c d).isLE) (c : Cidr) :
    blocks = blocks.filter (fun d => compare d c = .lt) ++
      (List.replicate (blocks.count c) c ++ (blocks.filter (fun d => d ⊂ c) ++
        blocks.filter fun d => compare c d = .lt ∧ ¬ d ⊂ c)) := by
  have hself (d : Cidr) : d = c ↔ compare d c ≠ .lt ∧ (compare d c).isLE := by
    rw [← compare_eq_eq_iff]
    cases compare d c <;> simp
  have hafter (d : Cidr) : compare c d = .lt ↔ compare d c ≠ .lt ∧ ¬ (compare d c).isLE := by
    have hgt : compare d c = .gt ↔ compare c d = .lt := Std.OrientedCmp.gt_iff_lt
    rw [← hgt]
    cases compare d c <;> simp
  calc
    blocks = blocks.filter fun _ => True := by simp
    _ = blocks.filter (fun d => compare d c = .lt) ++
        blocks.filter (fun d => compare d c ≠ .lt) := by
      apply filter_eq_append (q := fun d => compare d c = .lt) _ (by simp) (by simp)
      exact hsorted.imp fun hde _ _ hec => Std.TransCmp.lt_of_isLE_of_lt hde hec
    _ = blocks.filter (fun d => compare d c = .lt) ++ (blocks.filter (fun d => d = c) ++
        blocks.filter (fun d => compare c d = .lt)) := by
      rw [filter_eq_append _ hself hafter]
      exact hsorted.imp fun hde _ _ hec => Std.TransCmp.isLE_trans hde hec
    _ = _ := by
      rw [List.filter_eq, filter_eq_append (q := fun d => d ⊂ c) _
        (fun d => (and_iff_right_of_imp compare_eq_lt_of_ssubset).symm) fun _ => Iff.rfl]
      exact hsorted.imp fun hde hd _ hec => ssubset_of_between hd hde hec

end Cidr

/-- Addresses are ordered as their numbers, from which they can be restored. Blocks are totally
ordered, by the numbers of their networks and then by their lengths. Two of them have no common
address, or one is inside the other, and a block comes before those that are strictly inside of
it. So a sorted list has none of these before the block, and they follow the block and its
repetitions without a gap. -/
theorem blocks_are_ordered_by_nesting :
    (∀ x y : Address, compare x y = .lt ↔ x.toWord < y.toWord) ∧
    (∀ x : Address, .ofWord x.toWord = x) ∧ (∀ w, (Address.ofWord w).toWord = w) ∧
    Std.TransOrd Cidr ∧ (∀ c d : Cidr, compare c d = .eq ↔ c = d) ∧
    (∀ c d : Cidr, compare c d =
      (compare c.network.number d.network.number).then (compare c.length.val d.length.val)) ∧
    (∀ c d : Cidr, (∀ x, ¬ (x ∈ c ∧ x ∈ d)) ∨ c ⊆ d ∨ d ⊆ c) ∧
    (∀ c d : Cidr, c ⊂ d → compare d c = .lt) ∧
    ∀ blocks : List Cidr, blocks.Pairwise (fun c d => (compare c d).isLE) →
      blocks.Pairwise (fun c d => ¬ c ⊂ d) ∧
      ∀ c, blocks = blocks.filter (fun d => compare d c = .lt) ++
        (List.replicate (blocks.count c) c ++ (blocks.filter (fun d => d ⊂ c) ++
          blocks.filter fun d => compare c d = .lt ∧ ¬ d ⊂ c)) := by
  refine ⟨fun _ _ => Address.compare_eq_lt_iff, Address.ofWord_toWord, Address.toWord_ofWord,
    inferInstance, fun _ _ => Cidr.compare_eq_eq_iff, Cidr.compare_eq_then,
    Cidr.disjoint_or_subset, fun _ _ => Cidr.compare_eq_lt_of_ssubset, ?_⟩
  intro blocks hsorted
  refine ⟨hsorted.imp fun hcd hssubset => ?_, Cidr.eq_append_of_sorted hsorted⟩
  rw [Std.OrientedCmp.gt_of_lt (Cidr.compare_eq_lt_of_ssubset hssubset)] at hcd
  cases hcd

/-- A sorted list that has a block twice, after the block of all addresses and before two blocks
that are inside of it, of which one starts where it starts. -/
theorem blocks_are_ordered_by_nesting_repeated_block :
    let c := Cidr.of ⟨10, 0, 0, 0⟩ ⟨8, by decide⟩
    let inner := [Cidr.of ⟨10, 0, 0, 0⟩ ⟨16, by decide⟩, Cidr.of ⟨10, 255, 0, 0⟩ ⟨16, by decide⟩]
    let before := [Cidr.of ⟨0, 0, 0, 0⟩ ⟨0, by decide⟩, Cidr.of ⟨9, 0, 0, 0⟩ ⟨32, by decide⟩]
    let after := [Cidr.of ⟨11, 0, 0, 0⟩ ⟨8, by decide⟩]
    let blocks := before ++ [c, c] ++ inner ++ after
    blocks.Pairwise (fun c d => ¬ c ⊂ d) ∧ (∀ d ∈ inner, d ⊂ c ∧ compare c d = .lt) ∧
      blocks = before ++ (List.replicate 2 c ++ (inner ++
        blocks.filter fun d => compare c d = .lt ∧ ¬ d ⊂ c)) := by
  intro c inner before after blocks
  obtain ⟨-, -, -, -, -, -, -, hfirst, hsorted⟩ := blocks_are_ordered_by_nesting
  have hinner : ∀ d ∈ inner, d ⊂ c := by decide
  obtain ⟨hnot, happend⟩ := hsorted blocks (by decide)
  refine ⟨hnot, fun d hd => ⟨hinner d hd, hfirst d c (hinner d hd)⟩, ?_⟩
  have hbefore : blocks.filter (fun d => compare d c = .lt) = before := by decide
  have hinside : blocks.filter (fun d => d ⊂ c) = inner := by decide
  have hcount : blocks.count c = 2 := by decide
  have heq := happend c
  rwa [hbefore, hinside, hcount] at heq

end SiteVpn
