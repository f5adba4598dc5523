import SiteVpn.Proofs.Application

/-!
# The faults of a tunnel's specification

A value may stand in the element of a tunnel and in its options, and the one that does not count
has no effect, whatever it is. Each text that counts can be missing, where it is needed, or
unreadable. So a specification has a list of faults, one check after another, and it makes a
tunnel exactly if there are none. Otherwise the first of them is reported.

## Implementation notes

That a text is missing is found before any other text is read, except within the link block of
an element. So a text that is needed is looked at twice, at two places of the list.
-/

namespace SiteVpn

namespace TunnelSpec

/-- The fault of a text that is needed and not given. -/
def absent (id : String) (path : List String) : Option String → List ConnectionError
  | none => [.missingElement id path]
  | some _ => []

/-- The fault of a text that is given and cannot be read. -/
def unreadable {ε α : Type} (id : String) (role : ValueRole)
    (read : List Char → Except ε α) (cause : ε → ValueError) :
    Option String → List ConnectionError
  | none => []
  | some text =>
    match read text.toList with
    | .error e => [.badValue id role text (cause e)]
    | .ok _ => []

/-- The fault of a numeral that is no prefix length, although it can be read. -/
def beyondRange (id : String) : Option String → List ConnectionError
  | none => []
  | some text =>
    match Decimal.read UInt8.size text.toList with
    | .error _ => []
    | .ok n =>
      if n ≤ 32 then [] else [.badValue id .insidePrefixLength (Decimal.write n) (.prefixLength n)]

/-- A text that counts as long as no other value is given for it. -/
def unlessGiven {α : Type} (given : Option α) (text : Option String) : Option String :=
  if given.isSome then none else text

/-- What is wrong with the link block of an element. -/
def elementBlockFaults (id : String) (e : TunnelElement) : List ConnectionError :=
  absent id TunnelElement.gatewayInsideAddressPath e.gatewayInsideAddress ++
    absent id TunnelElement.insidePrefixLengthPath e.insidePrefixLength ++
    unreadable id .insideAddress Address.read .address e.gatewayInsideAddress ++
    unreadable id .insidePrefixLength (Decimal.read UInt8.size) .numeral e.insidePrefixLength ++
    beyondRange id e.insidePrefixLength

/-- What is wrong with the link block of a tunnel: with that of the options, if they have one,
and otherwise with that of the element. -/
def blockFaults (id : String) (s : TunnelSpec) : List ConnectionError :=
  match s.options.insideBlock with
  | some text => unreadable id .insideBlock Cidr.read .block (some text)
  | none => elementBlockFaults id s.element

/-- All that is wrong with a specification, in the order in which it is found. -/
def faults (id : String) (s : TunnelSpec) : List ConnectionError :=
  s.blockFaults id ++
    absent id TunnelElement.gatewayOutsideAddressPath
      (s.element.gatewayOutsideAddress.or s.options.outsideAddress) ++
    absent id TunnelElement.customerOutsideAddressPath s.element.customerOutsideAddress ++
    unreadable id .ikeLifetime (Decimal.read UInt32.size) .numeral
      (unlessGiven s.options.phase1Lifetime s.element.ikeLifetime) ++
    unreadable id .ipsecLifetime (Decimal.read UInt32.size) .numeral
      (unlessGiven s.options.phase2Lifetime s.element.ipsecLifetime) ++
    unreadable id .customerOutsideAddress Address.read .address
      s.element.customerOutsideAddress ++
    unreadable id .gatewayOutsideAddress Address.read .address
      (s.element.gatewayOutsideAddress.or s.options.outsideAddress) ++
    unreadable id .customerAsn (Decimal.read UInt32.size) .numeral s.element.customerAsn ++
    unreadable id .gatewayAsn (Decimal.read UInt32.size) .numeral s.element.gatewayAsn

end TunnelSpec

namespace Tunnel

open TunnelSpec (absent unreadable beyondRange unlessGiven)

section Checks

variable (id : String) (role : ValueRole)

theorem failure?_require (path : List String) (o : Option String) :
    failure? (require id path o) = (absent id path o).head? := by
  cases o <;> rfl

theorem eq_some_of_require {path : List String} {o : Option String} {text : String}
    (h : require id path o = .ok text) : o = some text := by
  cases o with
  | none => cases h
  | some value => rw [Except.ok.inj h]

/-- A text fails as it is unreadable. -/
theorem failure?_of_read {ε α : Type} {read : List Char → Except ε α} {cause : ε → ValueError}
    {text : String} {x : Except ConnectionError α}
    (hok : ∀ a, read text.toList = .ok a → x = .ok a)
    (herror : ∀ e, read text.toList = .error e → x = .error (.badValue id role text (cause e))) :
    failure? x = (unreadable id role read cause (some text)).head? := by
  dsimp only [unreadable]
  cases h : read text.toList with
  | error e => rw [herror e h]; rfl
  | ok a => rw [hok a h]; rfl

theorem failure?_readAddress (text : String) :
    failure? (readAddress id role text) =
      (unreadable id role Address.read .address (some text)).head? :=
  failure?_of_read id role (fun _ h => by rw [readAddress, h]) fun _ h => by rw [readAddress, h]

theorem failure?_readBelow (limit : Nat) (text : String) :
    failure? (readBelow id role limit text) =
      (unreadable id role (Decimal.read limit) .numeral (some text)).head? :=
  failure?_of_read id role (fun _ h => by rw [readBelow, h]) fun _ h => by rw [readBelow, h]

theorem failure?_readBlock (text : String) :
    failure? (readBlock id role text) =
      (unreadable id role Cidr.read .block (some text)).head? :=
  failure?_of_read id role (fun _ h => by rw [readBlock, h]) fun _ h => by rw [readBlock, h]

theorem read_of_readBelow {limit n : Nat} {text : String}
    (h : readBelow id role limit text = .ok n) : Decimal.read limit text.toList = .ok n := by
  unfold readBelow at h
  cases hread : Decimal.read limit text.toList with
  | error e => simp [hread] at h
  | ok m => simpa [hread] using h

theorem failure?_readWord? (o : Option String) :
    failure? (readWord? id role o) =
      (unreadable id role (Decimal.read UInt32.size) .numeral o).head? := by
  cases o with
  | none => rfl
  | some text =>
      rw [readWord?, failure?_bind (o := none) fun _ => rfl, Option.or_none, failure?_readBelow]

theorem failure?_lifetime (given : Option UInt32) (o : Option String) (default : UInt32) :
    failure? (lifetime id role given o default) =
      (unreadable id role (Decimal.read UInt32.size) .numeral (unlessGiven given o)).head? := by
  cases given with
  | some seconds => rfl
  | none =>
      rw [lifetime, failure?_bind (o := none) fun _ => rfl, Option.or_none, failure?_readWord?]
      rfl

end Checks

variable (id : String) (s : TunnelSpec)

theorem failure?_elementBlock (e : TunnelElement) :
    failure? (elementBlock id e) = (TunnelSpec.elementBlockFaults id e).head? := by
  unfold TunnelSpec.elementBlockFaults
  simp only [List.head?_append, Option.or_assoc]
  rw [elementBlock, ← failure?_require]
  apply failure?_bind_of_ok
  intro ip hip
  rw [← failure?_require]
  apply failure?_bind_of_ok
  intro length hlength
  rw [eq_some_of_require id hip, eq_some_of_require id hlength, ← failure?_readAddress]
  apply failure?_bind
  intro x
  rw [← failure?_readBelow]
  apply failure?_bind_of_ok
  intro n hn
  -- a numeral that is read can still be beyond the range of prefix lengths
  dsimp only [beyondRange]
  rw [read_of_readBelow id _ hn]
  unfold PrefixLength.ofNat?
  by_cases hrange : n ≤ 32
  · simp [hrange, pure, Except.pure, failure?]
  · simp [hrange, throw, throwThe, MonadExceptOf.throw, failure?]

theorem failure?_insideBlock : failure? (insideBlock id s) = (s.blockFaults id).head? := by
  unfold insideBlock TunnelSpec.blockFaults
  cases s.options.insideBlock with
  | some text => exact failure?_readBlock id .insideBlock text
  | none => exact failure?_elementBlock id s.element

theorem failure?_ofSpec (salt : Salt) : failure? (ofSpec id salt s) = (s.faults id).head? := by
  unfold TunnelSpec.faults
  simp only [List.head?_append, Option.or_assoc]
  rw [ofSpec, ← failure?_insideBlock]
  apply failure?_bind
  intro block
  rw [← failure?_require]
  apply failure?_bind_of_ok
  intro gateway hgateway
  rw [← failure?_require]
  apply failure?_bind_of_ok
  intro customer hcustomer
  rw [eq_some_of_require id hgateway, eq_some_of_require id hcustomer, ← failure?_lifetime]
  apply failure?_bind
  intro ikeLifetime
  rw [← failure?_lifetime]
  apply failure?_bind
  intro ipsecLifetime
  rw [← failure?_readAddress]
  apply failure?_bind
  intro customerOutside
  rw [← failure?_readAddress]
  apply failure?_bind
  intro gatewayOutside
  rw [← failure?_readWord?]
  apply failure?_bind
  intro customerAsn
  rw [failure?_bind (o := none) fun _ => rfl, Option.or_none, failure?_readWord?]

/-- The text that does not count has no effect, and the first fault is the error. Options come
before the element, for the link block, the key and the lifetimes, and the element before the
options for the address of the provider's end. A specification makes a tunnel exactly if it has
no faults, and otherwise the first of them is reported. -/
theorem ofSpec_precedence_and_first_fault (id : String) (salt : Salt) (i : Nat)
    (e : TunnelElement) (o : TunnelOptions) :
    (o.insideBlock.isSome → ∀ address length,
      ofSpec id salt
        ⟨i, { e with gatewayInsideAddress := address, insidePrefixLength := length }, o⟩ =
        ofSpec id salt ⟨i, e, o⟩) ∧
    (o.preSharedKey.isSome → ∀ key,
      ofSpec id salt ⟨i, { e with preSharedKey := key }, o⟩ = ofSpec id salt ⟨i, e, o⟩) ∧
    (o.phase1Lifetime.isSome → ∀ text,
      ofSpec id salt ⟨i, { e with ikeLifetime := text }, o⟩ = ofSpec id salt ⟨i, e, o⟩) ∧
    (o.phase2Lifetime.isSome → ∀ text,
      ofSpec id salt ⟨i, { e with ipsecLifetime := text }, o⟩ = ofSpec id salt ⟨i, e, o⟩) ∧
    (e.gatewayOutsideAddress.isSome → ∀ address,
      ofSpec id salt ⟨i, e, { o with outsideAddress := address }⟩ = ofSpec id salt ⟨i, e, o⟩) ∧
    ((∃ t, ofSpec id salt ⟨i, e, o⟩ = .ok t) ↔ TunnelSpec.faults id ⟨i, e, o⟩ = []) ∧
    ∀ error, ofSpec id salt ⟨i, e, o⟩ = .error error ↔
      (TunnelSpec.faults id ⟨i, e, o⟩).head? = some error := by
  simp only [Option.isSome_iff_exists]
  refine ⟨?block, ?key, ?ike, ?ipsec, ?outside, ?ok, ?error⟩
  case block =>
    rintro ⟨text, htext⟩ address length
    simp only [ofSpec, insideBlock, htext]
    rfl
  case key =>
    rintro ⟨given, hgiven⟩ key
    simp only [ofSpec, digestedKey, hgiven, Option.some_or]
    rfl
  case ike =>
    rintro ⟨seconds, hseconds⟩ text
    simp only [ofSpec, lifetime, hseconds]
    rfl
  case ipsec =>
    rintro ⟨seconds, hseconds⟩ text
    simp only [ofSpec, lifetime, hseconds]
    rfl
  case outside =>
    rintro ⟨text, htext⟩ address
    simp only [ofSpec, htext, Option.some_or]
    rfl
  case ok => exact (eq_nil_iff_of_failure? (failure?_ofSpec id _ salt)).symm
  case error =>
    intro error
    rw [← failure?_eq_some_iff, failure?_ofSpec]

/-- Of two unreadable texts the lifetime is reported first, but not where the options give one:
then it does not count, and what is reported is the address. -/
theorem ofSpec_precedence_and_first_fault_lifetime :
    let e : TunnelElement :=
      { oneTunnelElement with
        customerOutsideAddress := some "192.0.2", ikeLifetime := some "1h" }
    let o : TunnelOptions := oneTunnelOptions "169.254.10.0/30"
    let o' : TunnelOptions := { o with phase1Lifetime := some 600 }
    ofSpec "vpn-1" ⟨"00"⟩ ⟨0, e, o⟩ =
        .error (.badValue "vpn-1" .ikeLifetime "1h" (.numeral .invalidDigit)) ∧
      ofSpec "vpn-1" ⟨"00"⟩ ⟨0, { e with ikeLifetime := none }, o'⟩ =
        ofSpec "vpn-1" ⟨"00"⟩ ⟨0, e, o'⟩ ∧
      ofSpec "vpn-1" ⟨"00"⟩ ⟨0, e, o'⟩ =
        .error (.badValue "vpn-1" .customerOutsideAddress "192.0.2"
          (.address (.fieldCount "192.0.2"))) := by
  intro e o o'
  obtain ⟨-, -, -, -, -, -, herror⟩ :=
    ofSpec_precedence_and_first_fault "vpn-1" ⟨"00"⟩ 0 e o
  obtain ⟨-, -, hike, -, -, -, herror'⟩ :=
    ofSpec_precedence_and_first_fault "vpn-1" ⟨"00"⟩ 0 e o'
  exact ⟨(herror _).mpr rfl, hike rfl none, (herror' _).mpr rfl⟩

end Tunnel

end SiteVpn
