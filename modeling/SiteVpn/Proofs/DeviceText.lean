import Mathlib.Algebra.Group.Nat.Defs
import SiteVpn.Device.Form
import SiteVpn.Json.Reader
import SiteVpn.Proofs.LawfulForm

/-!
# Device configurations are read back from their texts

Everything that a configuration holds is read back as it was written. What a text gives beyond
that is brought into shape when it is read: host bits of a block are cleared, and a prefix
length beyond 32 is refused. So whatever text a configuration comes from, its own text gives it
again.
-/

namespace SiteVpn

/-! ## Addresses -/

/-- The mask of a prefix length has no host bits. -/
theorem PrefixLength.two_pow_dvd_mask (p : PrefixLength) :
    2 ^ (32 - p.val) ∣ p.mask.toNat := by
  unfold mask
  split
  case isTrue => exact Nat.dvd_zero _
  case isFalse hp =>
    have hshift : (UInt32.ofNat (32 - p.val)).toNat % 32 = 32 - p.val := by
      rw [UInt32.toNat_ofNat']
      omega
    rw [UInt32.toNat_shiftLeft, hshift, Nat.shiftLeft_eq]
    exact (Nat.dvd_mod_iff (Nat.pow_dvd_pow 2 (Nat.sub_le 32 p.val))).mpr (Nat.dvd_mul_left ..)

/-- An address without host bits is a multiple of the size of the block. -/
theorem Cidr.two_pow_dvd_network (c : Cidr) :
    2 ^ (32 - c.length.val) ∣ c.network.toWord.toNat := by
  have hmask : c.length.mask.toNat % 2 ^ (32 - c.length.val) = 0 :=
    Nat.mod_eq_zero_of_dvd c.length.two_pow_dvd_mask
  rw [← c.masked, Address.mask, Address.toWord_ofWord, UInt32.toNat_and]
  apply Nat.dvd_of_mod_eq_zero
  rw [Nat.and_mod_two_pow, hmask, Nat.and_zero]

/-- A block that has its mask is the block of its parts. -/
theorem Cidr.of_network (c : Cidr) : Cidr.of c.network c.length = c := by
  cases c with
  | mk network length masked =>
    simp only [Cidr.of, masked]

theorem PrefixLength.ofNat?_val (p : PrefixLength) : PrefixLength.ofNat? p.val = some p :=
  dif_pos p.le

/-- Octets are read in the order in which they were written. -/
theorem Address.ofOctetForm?_octetForm (o : Json.MemberOrder) (x : Address) :
    Address.ofOctetForm? (x.octetForm.inOrder o) = some x := by
  change Address.ofOctetForm? (.array [toJson x.a, toJson x.b, toJson x.c, toJson x.d]) = _
  simp [Address.ofOctetForm?, LawfulForm.ofJson?_toJson]

theorem Address.fits_octetForm (x : Address) : x.octetForm.Fits 1 :=
  ⟨⟨LawfulForm.isPlain x.a, LawfulForm.isPlain x.b, LawfulForm.isPlain x.c,
    LawfulForm.isPlain x.d, trivial⟩, Nat.le_refl 1⟩

instance : LawfulForm Address :=
  .ofRecord 1 (fun _ => rfl) (fun _ => rfl) (fun _ => rfl) (by decide)
    (fun x => by simp [x.fits_octetForm])
    (fun o x given h => by
      have hinner : given.lookup "inner" = some (x.octetForm.inOrder o) := h "inner"
      simp only [hinner]
      exact x.ofOctetForm?_octetForm o)

instance : LawfulForm PrefixLength where
  depth := 0
  isPlain p := Json.isPlain_natCast (Nat.lt_of_le_of_lt p.le (by decide))
  depth_le _ := Nat.le_refl 0
  ofJson?_inOrder o p := by
    have hp : ((toJson p).inOrder o).below? UInt8.size = some p.val :=
      Json.below?_natCast (Nat.lt_of_le_of_lt p.le (by decide))
    change ((toJson p).inOrder o).below? UInt8.size >>= PrefixLength.ofNat? = some p
    rw [hp]
    exact p.ofNat?_val

instance : LawfulForm Cidr :=
  .ofRecord 2 (fun _ => rfl) (fun _ => rfl) (fun _ => rfl) (by decide)
    (fun c => by simp (disch := decide) [LawfulForm.fits])
    (fun o c given h => by simp [h.required, List.lookup_cons, Cidr.of_network])

instance : LawfulForm InterfaceAddress :=
  .ofRecord 2 (fun _ => rfl) (fun _ => rfl) (fun _ => rfl) (by decide)
    (fun i => by simp (disch := decide) [LawfulForm.fits])
    (fun o i given h => by simp [h.required, List.lookup_cons])

/-- A prefix length beyond 32 is refused. -/
theorem PrefixLength.ofJson?_natCast (n : Nat) :
    (ofJson? (.integer n) : Option PrefixLength) = PrefixLength.ofNat? n := by
  change (Json.integer n).below? UInt8.size >>= PrefixLength.ofNat? = _
  by_cases hn : n < UInt8.size
  · rw [Json.below?_natCast hn]
    rfl
  · have hbelow : (Json.integer n).below? UInt8.size = none := if_neg hn
    have hlarge : ¬ n ≤ 32 := fun h => hn (Nat.lt_of_le_of_lt h (by decide))
    rw [hbelow, PrefixLength.ofNat?, dif_neg hlarge]
    rfl

/-- The block of an address and a number is masked, or refused with its length. -/
theorem Cidr.ofJson?_members (x : Address) (n : Nat) :
    (ofJson? (.object [("ip", toJson x), ("prefix_len", .integer n)]) : Option Cidr) =
      (PrefixLength.ofNat? n).map (Cidr.of x) := by
  change (do return Cidr.of (← ofJson? (toJson x)) (← ofJson? (.integer n))) = _
  rw [LawfulForm.ofJson?_toJson, PrefixLength.ofJson?_natCast]
  cases PrefixLength.ofNat? n <;> rfl

/-- An interface keeps its host bits. -/
theorem InterfaceAddress.ofJson?_members (x : Address) (n : Nat) :
    (ofJson? (.object [("ip", toJson x), ("prefix_len", .integer n)]) :
      Option InterfaceAddress) = (PrefixLength.ofNat? n).map (InterfaceAddress.mk x) := by
  change (do return InterfaceAddress.mk (← ofJson? (toJson x)) (← ofJson? (.integer n))) = _
  rw [LawfulForm.ofJson?_toJson, PrefixLength.ofJson?_natCast]
  cases PrefixLength.ofNat? n <;> rfl

/-! ## Names -/

instance : LawfulNamed EncryptionAlgorithm := ⟨fun a => by cases a <;> decide⟩

instance : LawfulNamed IkeHashingAlgorithm := ⟨fun a => by cases a <;> decide⟩

instance : LawfulNamed IpsecAuthenticationAlgorithm := ⟨fun a => by cases a <;> decide⟩

instance : LawfulNamed DiffieHellmanGroup := ⟨fun a => by cases a <;> decide⟩

instance : LawfulNamed IpsecProtocol := ⟨fun a => by cases a; decide⟩

instance : LawfulNamed EncapsulationMode := ⟨fun a => by cases a <;> decide⟩

instance : LawfulNamed IkeAuthenticationMethod := ⟨fun a => by cases a; decide⟩

instance : LawfulNamed KeyType := ⟨fun a => by cases a; decide⟩

instance : LawfulNamed RoutingProtocol := ⟨fun a => by cases a <;> decide⟩

instance : LawfulNamed OriginType := ⟨fun a => by cases a <;> decide⟩

instance : LawfulNamed PolicyAction := ⟨fun a => by cases a <;> decide⟩

instance : LawfulForm ProtocolSet where
  depth := LawfulForm.depth (List IpsecProtocol)
  isPlain s := LawfulForm.isPlain s.toList
  depth_le s := LawfulForm.depth_le s.toList
  ofJson?_inOrder o s := by
    change (ofJson? ((toJson s.toList).inOrder o)).map ProtocolSet.ofList = some s
    rw [LawfulForm.ofJson?_inOrder, Option.map_some, ProtocolSet.ofList_toList]

/-! ## The parts of a configuration -/

instance : LawfulForm Phase1Proposal :=
  .ofRecord 1 (fun _ => rfl) (fun _ => rfl) (fun _ => rfl) (by decide)
    (fun p => by simp (disch := decide) [LawfulForm.fits])
    (fun o p given h => by simp [h.required, h.orDefault, List.lookup_cons])

instance : LawfulForm Phase1Key :=
  .ofRecord 2 (fun _ => rfl) (fun _ => rfl) (fun _ => rfl) (by decide)
    (fun k => by simp (disch := decide) [LawfulForm.fits])
    (fun o k given h => by simp [h.required, h.orDefault, List.lookup_cons])

instance : LawfulForm Phase1Policy :=
  .ofRecord 3 (fun _ => rfl) (fun _ => rfl) (fun _ => rfl) (by decide)
    (fun p => by simp (disch := decide) [LawfulForm.fits])
    (fun o p given h => by simp [h.required, List.lookup_cons])

instance : LawfulForm Phase2Proposal :=
  .ofRecord 1 (fun _ => rfl) (fun _ => rfl) (fun _ => rfl) (by decide)
    (fun p => by simp (disch := decide) [LawfulForm.fits])
    (fun o p given h => by simp [h.required, h.orDefault, List.lookup_cons])

instance : LawfulForm Phase2Policy :=
  .ofRecord 1 (fun _ => rfl) (fun _ => rfl) (fun _ => rfl) (by decide)
    (fun p => by simp (disch := decide) [LawfulForm.fits])
    (fun o p given h => by simp [h.required, h.orDefault, List.lookup_cons])

instance : LawfulForm PeerConfig :=
  .ofRecord 2 (fun _ => rfl) (fun _ => rfl) (fun _ => rfl) (by decide)
    (fun p => by simp (disch := decide) [LawfulForm.fits])
    (fun o p given h => by simp [h.required, List.lookup_cons])

instance : LawfulForm Interface :=
  .ofRecord 3 (fun _ => rfl) (fun _ => rfl) (fun _ => rfl) (by decide)
    (fun i => by simp (disch := decide) [LawfulForm.fits])
    (fun o i given h => by simp [h.required, List.lookup_cons])

instance : LawfulForm BgpPeer :=
  .ofRecord 2 (fun _ => rfl) (fun _ => rfl) (fun _ => rfl) (by decide)
    (fun p => by simp (disch := decide) [LawfulForm.fits])
    (fun o p given h => by simp [h.required, h.orDefault, List.lookup_cons])

instance : LawfulForm StaticRoute :=
  .ofRecord 3 (fun _ => rfl) (fun _ => rfl) (fun _ => rfl) (by decide)
    (fun r => by simp (disch := decide) [LawfulForm.fits])
    (fun o r given h => by simp [h.required, List.lookup_cons])

instance : LawfulForm Vrf :=
  .ofRecord 5 (fun _ => rfl) (fun _ => rfl) (fun _ => rfl) (by decide)
    (fun v => by simp (disch := decide) [LawfulForm.fits])
    (fun o v given h => by simp [h.required, List.lookup_cons])

instance : LawfulForm PolicyStatement :=
  .ofRecord 0 (fun _ => rfl) (fun _ => rfl) (fun _ => rfl) (by decide)
    (fun s => by simp (disch := decide) [LawfulForm.fits])
    (fun o s given h => by simp [h.required, h.orDefault, List.lookup_cons])

instance : LawfulForm RoutingPolicy :=
  .ofRecord 2 (fun _ => rfl) (fun _ => rfl) (fun _ => rfl) (by decide)
    (fun p => by simp (disch := decide) [LawfulForm.fits])
    (fun o p given h => by simp [h.required, List.lookup_cons])

instance : LawfulForm Configuration :=
  .ofRecord 7 (fun _ => rfl) (fun _ => rfl) (fun _ => rfl) (by decide)
    (fun d => by simp (disch := decide) [LawfulForm.fits])
    (fun o d given h => by simp [h.required, List.lookup_cons])

namespace Configuration

/-- The configuration of a text. -/
def ofText? (text : String) : Option Configuration := Json.read text.toList >>= ofJson?

/-- A configuration is read back from its text, whatever the style of the text is. -/
theorem ofText?_written (d : Configuration) (style : Json.Style) :
    ofText? (String.ofList ((toJson d).written style)) = some d := by
  rw [ofText?, String.toList_ofList, Json.read_written style (LawfulForm.isPlain d)]
  exact LawfulForm.ofJson?_inOrder style.order d

/-- The text of a configuration gives the configuration again, also where the configuration
comes from a text itself. Such a configuration has blocks without host bits and prefix lengths
up to 32 only, since a block is masked when it is read and a greater length is refused. -/
theorem text_round_trip :
    (∀ (d : Configuration) (style : Json.Style),
      ofText? (String.ofList ((toJson d).written style)) = some d) ∧
    (∀ (text : String) (d : Configuration), ofText? text = some d →
      (∀ style : Json.Style, ofText? (String.ofList ((toJson d).written style)) = some d) ∧
      (∀ v ∈ d.vrfs.values, ∀ r ∈ v.staticRoutes, r.network.length.val ≤ 32 ∧
        2 ^ (32 - r.network.length.val) ∣ r.network.network.toWord.toNat) ∧
      ∀ i ∈ d.interfaces.values, i.address.length.val ≤ 32) ∧
    ∀ (x : Address) (n : Nat),
      (ofJson? (.object [("ip", toJson x), ("prefix_len", .integer n)]) : Option Cidr) =
        (PrefixLength.ofNat? n).map (Cidr.of x) ∧
      (ofJson? (.object [("ip", toJson x), ("prefix_len", .integer n)]) :
        Option InterfaceAddress) = (PrefixLength.ofNat? n).map (InterfaceAddress.mk x) := by
  refine ⟨ofText?_written, fun text d _ => ⟨ofText?_written d, ?_, ?_⟩, fun x n => ?_⟩
  · intro v _ r _
    exact ⟨r.network.length.le, r.network.two_pow_dvd_network⟩
  · intro i _
    exact i.address.length.le
  · exact ⟨Cidr.ofJson?_members x n, InterfaceAddress.ofJson?_members x n⟩

/-- A route to `10.0.0.9/24` in a text is a route to `10.0.0.0/24`, and is written as one. -/
theorem text_round_trip_host_bits :
    let text :=
      "[\"gw\", \x7b\"default\": [\"default\", [], [[[[[10, 0, 0, 9]], 24], [[10, 1, 0, 1]]," ++
        " 1]]]\x7d, \x7b\x7d, \x7b\x7d, \x7b\x7d, \x7b\x7d, \x7b\x7d, \x7b\x7d, \x7b\x7d, \x7b\x7d]"
    let route : StaticRoute := .via (.of ⟨10, 0, 0, 0⟩ ⟨24, by decide⟩) ⟨10, 1, 0, 1⟩
    let d : Configuration :=
      ⟨"gw", .singleton "default" ⟨"default", [], [route]⟩, ∅, ∅, ∅, ∅, ∅, ∅, ∅, ∅⟩
    ofText? text = some d ∧
      ofText? (String.ofList ((toJson d).written ⟨false, .given⟩)) = some d := by
  intro text route d
  have hread : ofText? text = some d := by
    -- the characters are read, since it takes long to decode the text
    rw [show text = String.ofList _ ++ String.ofList _ from rfl, ← String.ofList_append, ofText?,
      String.toList_ofList]
    decide +kernel
  exact ⟨hread, (text_round_trip.2.1 text d hread).1 ⟨false, .given⟩⟩

end Configuration

end SiteVpn
