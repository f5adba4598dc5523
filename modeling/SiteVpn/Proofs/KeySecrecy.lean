import SiteVpn.Proofs.Application
import SiteVpn.Proofs.SecureHash

/-!
# Keys are seen as digests only

A pre-shared key is secret, so nothing that is made of it may tell more than its salted
digest does. Keys of the same digest give the same tunnel, the same connection and the same
parts of a gateway, and where one is refused so is the other, for the same reason. The digest
is a standard hash, whose digits do not give the key away.

## Implementation notes

Two runs are not followed side by side. A tunnel is that of its specification without keys,
and the digest is put into it last; the options of a connection take part in the same way
when their keys are replaced by digests, as pairing by position does not look at keys.
-/

namespace SiteVpn

namespace Salt

theorem length_digest (salt : Salt) (key : String) : (salt.digest key).length = 64 := by
  rw [digest, String.length_ofList, length_hexDigits, Sha256.length_hash]

theorem mem_digits (salt : Salt) {key : String} {c : Char}
    (h : c ∈ (salt.digest key).toList) : c ∈ "0123456789abcdef".toList := by
  have hdigit : ∀ n < 16, hexDigit n ∈ "0123456789abcdef".toList := by decide
  rw [digest, String.toList_ofList] at h
  obtain ⟨b, -, hc⟩ := List.mem_flatMap.mp h
  have hb := b.toNat_lt
  rcases List.mem_pair.mp hc with rfl | rfl
  · exact hdigit _ (by omega)
  · exact hdigit _ (by omega)

end Salt

namespace TunnelSpec

/-- The specification with other keys, of its options and of its element. -/
def withKeys (s : TunnelSpec) (option element : Option String) : TunnelSpec :=
  { s with
    options := { s.options with preSharedKey := option }
    element := { s.element with preSharedKey := element } }

/-- What is left of a specification without its keys. -/
def withoutKeys (s : TunnelSpec) : TunnelSpec := s.withKeys none none

/-- The key that counts: that of the options, or else that of the element. -/
def effectiveKey (s : TunnelSpec) : Option String :=
  s.options.preSharedKey.or s.element.preSharedKey

end TunnelSpec

namespace Tunnel

/-- The key of a specification ends up in the digest of the tunnel and nowhere else. -/
theorem ofSpec_eq_map (id : String) (salt : Salt) (s : TunnelSpec) :
    ofSpec id salt s =
      (ofSpec id salt s.withoutKeys).map fun t =>
        { t with keyHash := s.effectiveKey.map salt.digest } := by
  unfold ofSpec
  iterate 9 refine bind_eq_map_bind fun _ => ?_
  rfl

/-- Specifications that differ in keys of the same digest give the same tunnel. -/
theorem ofSpec_congr {id : String} {salt : Salt} {s s' : TunnelSpec}
    (hspec : s.withoutKeys = s'.withoutKeys)
    (hkey : s.effectiveKey.map salt.digest = s'.effectiveKey.map salt.digest) :
    ofSpec id salt s = ofSpec id salt s' := by
  rw [ofSpec_eq_map id salt s, ofSpec_eq_map id salt s', hspec, hkey]

end Tunnel

theorem Tunnel.keyHash_of_ofSpec {id : String} {salt : Salt} {s : TunnelSpec} {t : Tunnel}
    (h : ofSpec id salt s = .ok t) : t.keyHash = s.effectiveKey.map salt.digest := by
  rw [ofSpec_eq_map] at h
  cases hs : ofSpec id salt s.withoutKeys with
  | error e =>
      rw [hs] at h
      cases h
  | ok u =>
      rw [hs] at h
      obtain rfl := Except.ok.inj h
      rfl

/-- The options of a tunnel with the digest of their key in its place. -/
def TunnelOptions.digested (salt : Salt) (o : TunnelOptions) : TunnelOptions :=
  { o with preSharedKey := o.preSharedKey.map salt.digest }

namespace TunnelSpec

/-- The specification with other options. -/
def mapOptions (f : TunnelOptions → TunnelOptions) (s : TunnelSpec) : TunnelSpec :=
  { s with options := f s.options }

theorem pairFrom_map_options (f : TunnelOptions → TunnelOptions) (n m i : Nat)
    (es : List TunnelElement) (os : List TunnelOptions) :
    pairFrom n m i es (os.map f) = (pairFrom n m i es os).map (List.map (mapOptions f)) := by
  induction es generalizing i os with
  | nil => cases os <;> rfl
  | cons e es ih =>
      cases os with
      | nil => rfl
      | cons o os =>
          rw [List.map_cons, pairFrom, pairFrom, ih]
          cases pairFrom n m (i + 1) es os <;> rfl

/-- Elements and options are paired by position, whatever the options are. -/
theorem pair_map_options (f : TunnelOptions → TunnelOptions) (es : List TunnelElement)
    (os : List TunnelOptions) :
    pair es (os.map f) = (pair es os).map (List.map (mapOptions f)) := by
  rw [pair, List.length_map]
  exact pairFrom_map_options f es.length os.length 0 es os

theorem ofSpec_congr_digested {id : String} {salt : Salt} {s s' : TunnelSpec}
    (h : s.mapOptions (·.digested salt) = s'.mapOptions (·.digested salt)) :
    Tunnel.ofSpec id salt s = Tunnel.ofSpec id salt s' := by
  have hspec (s : TunnelSpec) :
      s.withoutKeys = (s.mapOptions (·.digested salt)).withoutKeys := rfl
  have hkey (s : TunnelSpec) : s.effectiveKey.map salt.digest =
      ((s.mapOptions (·.digested salt)).options.preSharedKey).or
        ((s.mapOptions (·.digested salt)).element.preSharedKey.map salt.digest) :=
    Option.map_or
  apply Tunnel.ofSpec_congr
  · rw [hspec s, hspec s', h]
  · rw [hkey s, hkey s', h]

end TunnelSpec

/-- The options of a connection with digests in the place of keys. -/
def ConnectionOptions.digested (salt : Salt) (o : ConnectionOptions) : ConnectionOptions :=
  { o with tunnels := o.tunnels.map (·.digested salt) }

/-- The record of a connection with digests in the place of its options' keys. -/
def ConnectionRecord.digested (salt : Salt) (r : ConnectionRecord) : ConnectionRecord :=
  { r with options := r.options.map (·.digested salt) }

namespace Connection

theorem require_map {α β : Type} (f : α → β) (connection : Option String)
    (field : RecordField) (o : Option α) :
    (require connection field o).map f = require connection field (o.map f) := by
  cases o <;> rfl

/-- Records that differ in keys of the same digests give the same connection. -/
theorem ofRecord_congr {salt : Salt} {r r' : ConnectionRecord}
    (h : r.digested salt = r'.digested salt) : ofRecord salt r = ofRecord salt r' := by
  have hid : r.id = r'.id := congrArg (·.id) h
  have hcustomer : r.customerGateway = r'.customerGateway := congrArg (·.customerGateway) h
  have htransit : r.transitGateway = r'.transitGateway := congrArg (·.transitGateway) h
  have hvpn : r.vpnGateway = r'.vpnGateway := congrArg (·.vpnGateway) h
  have hdocument : r.document = r'.document := congrArg (·.document) h
  have hroutes : r.routes = r'.routes := congrArg (·.routes) h
  have htelemetry : r.telemetry = r'.telemetry := congrArg (·.telemetry) h
  have hoptions : r.options.map (·.digested salt) = r'.options.map (·.digested salt) :=
    congrArg (·.options) h
  unfold ofRecord
  rw [hid, hcustomer, htransit, hvpn, hdocument, hroutes, htelemetry]
  iterate 6 refine bind_congr fun _ => ?_
  apply bind_congr_of_map (k := (·.digested salt))
  · rw [require_map, require_map, hoptions]
  intro o o' ho
  have htunnels : o.tunnels.map (·.digested salt) = o'.tunnels.map (·.digested salt) :=
    congrArg (·.tunnels) ho
  have hstatic : o.staticRoutesOnly = o'.staticRoutesOnly := congrArg (·.staticRoutesOnly) ho
  apply bind_congr
  intro document
  apply bind_congr_of_map (k := List.map (TunnelSpec.mapOptions (·.digested salt)))
  · rw [← TunnelSpec.pair_map_options, ← TunnelSpec.pair_map_options, htunnels]
  · intro specs specs' hspecs
    rw [mapM_congr_of_map hspecs fun _ _ => TunnelSpec.ofSpec_congr_digested, hstatic]

/-- A key reaches tunnels, connections and what they add to a gateway through its salted
digest only: two keys of one digest cannot be told apart by any result or error. The digest
is the standard hash of the key and the salt, in 64 lower-case hexadecimal digits. -/
theorem keys_seen_as_digests (salt : Salt) :
    (∀ (id : String) (s s' : TunnelSpec), s.withoutKeys = s'.withoutKeys →
      s.effectiveKey.map salt.digest = s'.effectiveKey.map salt.digest →
        Tunnel.ofSpec id salt s = Tunnel.ofSpec id salt s' ∧
        ∀ t, Tunnel.ofSpec id salt s = .ok t →
          t.keyHash = s.effectiveKey.map salt.digest) ∧
    (∀ r r' : ConnectionRecord, r.digested salt = r'.digested salt →
      ofRecord salt r = ofRecord salt r' ∧
      ∀ p, (ofRecord salt r).map (·.synthesize p) = (ofRecord salt r').map (·.synthesize p)) ∧
    ∀ key, salt.digest key = SecureHash.hexHash (utf8 key ++ utf8 salt.text) ∧
      (salt.digest key).length = 64 ∧
      ∀ c ∈ (salt.digest key).toList, c ∈ "0123456789abcdef".toList := by
  refine ⟨?specs, ?records, ?digests⟩
  case specs =>
    intro id s s' hspec hkey
    exact ⟨Tunnel.ofSpec_congr hspec hkey, fun t ht => Tunnel.keyHash_of_ofSpec ht⟩
  case records =>
    intro r r' h
    have hconnection := ofRecord_congr h
    exact ⟨hconnection, fun p => by rw [hconnection]⟩
  case digests =>
    intro key
    exact ⟨salt.digest_eq_hexHash key, salt.length_digest key, fun c hc => salt.mem_digits hc⟩

/-- Where the options give a key, nothing depends on that of the element. -/
theorem keys_seen_as_digests_two_element_keys :
    let options := { oneTunnelOptions "169.254.10.0/30" with preSharedKey := some "psk" }
    let s : TunnelSpec := ⟨0, { oneTunnelElement with preSharedKey := some "a" }, options⟩
    let s' : TunnelSpec := ⟨0, { oneTunnelElement with preSharedKey := some "b" }, options⟩
    s ≠ s' ∧ Tunnel.ofSpec "vpn-1" ⟨"00"⟩ s = Tunnel.ofSpec "vpn-1" ⟨"00"⟩ s' :=
  ⟨by decide, ((keys_seen_as_digests ⟨"00"⟩).1 "vpn-1" _ _ rfl rfl).1⟩

end Connection

end SiteVpn
