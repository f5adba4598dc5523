import Mathlib.Algebra.GroupWithZero.Nat
import Mathlib.Data.Finset.Prod
import Mathlib.Data.List.Dedup
import SiteVpn.Proofs.Application
import SiteVpn.Proofs.Combination
import SiteVpn.Proofs.Disjointness

/-!
# How many parts a connection has

A map has as many entries as there are names in it, and disjoint maps laid over one another
have the entries of both. So the parts of a connection are as many as those of its tunnels
together, whatever the kind. Within a tunnel only phase 1 proposals share names, and they do
where they come from the same tokens.
-/

namespace SiteVpn

namespace NameMap

variable {α : Type} {m n : NameMap α}

theorem mem_names_iff {k : String} : k ∈ m.names ↔ m.contains k := by
  rw [contains_iff, names, List.mem_map]
  constructor
  · rintro ⟨e, he, rfl⟩
    exact ⟨e.2, (m.mem_entries_iff e.1 e.2).mp he⟩
  · rintro ⟨v, hv⟩
    exact ⟨(k, v), (m.mem_entries_iff k v).mpr hv, rfl⟩

/-- A map has as many entries as there are names in it. -/
theorem size_eq_length {ks : List String} (hnodup : ks.Nodup)
    (h : ∀ k, m.contains k ↔ k ∈ ks) : m.size = ks.length := by
  have hperm : m.names.Perm ks := by
    apply (List.perm_ext_iff_of_nodup m.nodup_names hnodup).mpr
    intro k
    rw [mem_names_iff, h]
  rw [← hperm.length_eq, names, List.length_map, size]

@[simp] theorem size_singleton (name : String) (v : α) : (singleton name v).size = 1 := rfl

/-- Disjoint maps laid over one another have the entries of both. -/
theorem size_extend (h : m.Disjoint n) : (m.extend n).size = m.size + n.size := by
  have hnodup : (m.names ++ n.names).Nodup := by
    apply List.nodup_append.mpr
    refine ⟨m.nodup_names, n.nodup_names, ?_⟩
    rintro k hk k' hk' rfl
    obtain ⟨v, hv⟩ := (m.contains_iff k).mp (mem_names_iff.mp hk)
    obtain ⟨w, hw⟩ := (n.contains_iff k).mp (mem_names_iff.mp hk')
    rcases h k with hnone | hnone
    · rw [hv] at hnone
      cases hnone
    · rw [hw] at hnone
      cases hnone
  have hsize := size_eq_length (m := m.extend n) hnodup fun k => by
    rw [contains_extend, List.mem_append, mem_names_iff, mem_names_iff, Bool.or_eq_true, or_comm]
  rw [hsize, List.length_append]
  simp only [names, List.length_map, size]

/-- The map of a list has as many entries as there are names in the list. -/
theorem size_ofList (entries : List (String × α)) :
    (ofList entries).size = (entries.map (·.1)).dedup.length := by
  apply size_eq_length (List.nodup_dedup _)
  intro k
  rw [List.mem_dedup, List.mem_map]
  constructor
  · intro h
    obtain ⟨v, hv⟩ := (contains_iff _ k).mp h
    exact ⟨(k, v), mem_of_get?_ofList hv, rfl⟩
  · rintro ⟨e, he, rfl⟩
    exact contains_ofList_of_mem he

end NameMap

theorem nodup_numberedNames (x : String) (start count : Nat) :
    (numberedNames x start count).Nodup :=
  (List.nodup_range' 1).map fun _ _ h => (numberedName_inj h).2

@[simp] theorem length_numberedNames (x : String) (start count : Nat) :
    (numberedNames x start count).length = count := by
  rw [numberedNames, List.length_map, List.length_range']

/-- Numbered values are all kept. -/
theorem size_ofList_numbered {α : Type} (x : String) (start : Nat) (vs : List α) :
    (NameMap.ofList ((numberedNames x start vs.length).zip vs)).size = vs.length := by
  have hnames : ((numberedNames x start vs.length).zip vs).map (·.1) =
      numberedNames x start vs.length :=
    List.map_fst_zip (by rw [length_numberedNames])
  rw [NameMap.size_ofList, hnames, (nodup_numberedNames ..).dedup, length_numberedNames]

namespace Tunnel

theorem mem_phase1Combinations {t : Tunnel} {tokens : Phase1Tokens} :
    tokens ∈ t.phase1Combinations ↔ tokens.group ∈ t.ikeGroups ∧
      tokens.integrity ∈ t.ipsecIntegrity ∧ tokens.encryption ∈ t.ikeEncryption := by
  cases tokens
  simp [phase1Combinations]

namespace Expansion

variable {t : Tunnel} {tunnelId : String} (e : t.Expansion tunnelId) (c : Connection)
  (p : Placement)

include e in
/-- The tokens of every combination are known. -/
theorem known_of_mem {tokens : Phase1Tokens} (h : tokens ∈ t.phase1Combinations) :
    tokens.Known := by
  obtain ⟨i, hi⟩ := List.mem_iff_getElem?.mp h
  obtain ⟨q, -, hq⟩ := getElem?_of_mapM e.phase1_eq hi
  exact (phase1Proposal_eq_ok hq).1

theorem names_phase1 : e.phase1.map (·.name) = t.phase1Combinations.map (phase1Name tunnelId) :=
  map_of_mapM e.phase1_eq fun _ _ h => (phase1Proposal_eq_ok h).2

theorem length_phase2 : e.phase2.length = t.ipsecIntegrity.length * t.ipsecEncryption.length := by
  rw [← length_phase2Combinations]
  exact length_of_mapM e.phase2_eq

theorem length_policies : e.policies.length = t.ipsecGroups.length := by
  obtain ⟨groups, hg, hp⟩ := phase2Policies_eq_ok e.policies_eq
  rw [hp, List.length_map, length_of_mapM hg]

theorem size_interfaces : (e.parts c p).interfaces.size = 2 := by
  have hnodup : [externalName tunnelId, internalName tunnelId].Nodup := by
    simp [externalName_ne_internalName]
  exact (NameMap.size_ofList _).trans (congrArg List.length hnodup.dedup)

/-- There is a phase 1 proposal for each three different tokens. -/
theorem size_phase1Proposals :
    (e.parts c p).phase1Proposals.size =
      t.ikeGroups.dedup.length * t.ipsecIntegrity.dedup.length *
        t.ikeEncryption.dedup.length := by
  let tokens (x : String × String × String) : Phase1Tokens := ⟨x.1, x.2.1, x.2.2⟩
  let triples := t.ikeGroups.toFinset ×ˢ t.ipsecIntegrity.toFinset ×ˢ t.ikeEncryption.toFinset
  have hmem : ∀ x, x ∈ triples ↔ tokens x ∈ t.phase1Combinations := by
    intro x
    simp [triples, tokens, mem_phase1Combinations]
  have hnames : (t.phase1Combinations.map (phase1Name tunnelId)).toFinset =
      triples.image fun x => phase1Name tunnelId (tokens x) := by
    ext name
    simp only [List.mem_toFinset, List.mem_map, Finset.mem_image, hmem]
    constructor
    · rintro ⟨q, hq, rfl⟩
      exact ⟨(q.group, q.integrity, q.encryption), hq, rfl⟩
    · rintro ⟨x, hx, rfl⟩
      exact ⟨tokens x, hx, rfl⟩
  have hinj : Set.InjOn (fun x => phase1Name tunnelId (tokens x)) triples := by
    -- The name determines the tokens, as all of them are known.
    intro x hx y hy heq
    have hknown := e.known_of_mem ((hmem x).mp hx)
    have hknown' := e.known_of_mem ((hmem y).mp hy)
    have htokens := (phase1Name_inj hknown hknown' heq).2
    simp only [tokens, Phase1Tokens.mk.injEq] at htokens
    exact Prod.ext htokens.1 (Prod.ext htokens.2.1 htokens.2.2)
  calc
    (e.parts c p).phase1Proposals.size = (e.phase1.map (·.name)).dedup.length := by
      change (NameMap.ofList (e.phase1.map fun q => (q.name, q))).size = _
      rw [NameMap.size_ofList, List.map_map]
      rfl
    _ = (triples.image fun x => phase1Name tunnelId (tokens x)).card := by
      rw [e.names_phase1, ← List.card_toFinset, hnames]
    _ = triples.card := Finset.card_image_of_injOn hinj
    _ = _ := by
      simp only [triples, Finset.card_product, List.card_toFinset, Nat.mul_assoc]

theorem size_phase2Proposals :
    (e.parts c p).phase2Proposals.size = t.ipsecIntegrity.length * t.ipsecEncryption.length := by
  rw [← e.length_phase2]
  exact size_ofList_numbered tunnelId 0 e.phase2

theorem size_phase2Policies : (e.parts c p).phase2Policies.size = t.ipsecGroups.length := by
  rw [← e.length_policies]
  exact size_ofList_numbered tunnelId e.phase2.length e.policies

theorem size_peerConfigs : (e.parts c p).peerConfigs.size = t.ipsecGroups.length := by
  let policyNames := phase2PolicyNames tunnelId e.phase2.length e.policies.length
  have hnodup : (policyNames.map peerName).Nodup :=
    (nodup_numberedNames ..).map fun _ _ h => peerName_inj h
  change (NameMap.ofList (policyNames.map fun n => (peerName n, t.peerConfig tunnelId n))).size = _
  rw [NameMap.size_ofList, List.map_map]
  change (policyNames.map peerName).dedup.length = _
  rw [hnodup.dedup, List.length_map, ← e.length_policies]
  exact length_numberedNames ..

end Expansion

end Tunnel

namespace PartKind

variable {α : Type} (S : PartKind α) {c : Connection} {p : Placement} {a : Artifacts}

/-- The parts of a connection are as many as those of its tunnels together. -/
theorem size_synthesizeFrom {count : Tunnel → Nat}
    (hcount : ∀ {t : Tunnel} {tunnelId : String} (e : t.Expansion tunnelId),
      (S.map (e.parts c p).named).size = count t)
    {n : Nat} {ts : List Tunnel} (h : (c.synthesizeFrom p n ts).value = .ok a) :
    (S.map a.named).size = (ts.map count).sum := by
  induction ts generalizing n a with
  | nil =>
      obtain rfl : Artifacts.empty = a := Except.ok.inj h
      rw [Artifacts.named_empty, S.map_empty]
      rfl
  | cons t ts ih =>
      obtain ⟨e, rest, hr, rfl⟩ := Connection.synthesizeFrom_cons_eq_ok h
      have hdisjoint : (S.map (e.parts c p).named).Disjoint (S.map rest.named) := by
        apply NameMap.disjoint_of_get?
        intro name v w hv hw
        obtain ⟨i, u, -, hS⟩ := S.exists_owner_of_get? hr hw
        have heq := S.owner_unique (S.owns_of_get? e c p hv) hS
        have hn := (numberedName_inj heq).2
        omega
      rw [Artifacts.named_append, S.map_extend, NameMap.size_extend hdisjoint, hcount e, ih hr,
        List.map_cons, List.sum_cons]

end PartKind

namespace Connection

variable {c : Connection} {p : Placement} {a : Artifacts}

/-- Each tunnel of a connection with static routes has a route to each network. -/
theorem staticRoutes_synthesizeFrom {n : Nat} {ts : List Tunnel}
    (h : (c.synthesizeFrom p n ts).value = .ok a) :
    a.staticRoutes = if c.staticRoutesOnly then ts.flatMap (·.staticRoutes c.routes) else [] := by
  induction ts generalizing n a with
  | nil =>
      obtain rfl : Artifacts.empty = a := Except.ok.inj h
      split <;> rfl
  | cons t ts ih =>
      obtain ⟨e, rest, hr, rfl⟩ := synthesizeFrom_cons_eq_ok h
      change (if c.staticRoutesOnly then t.staticRoutes c.routes else []) ++ rest.staticRoutes = _
      rw [ih hr]
      split <;> rfl

end Connection

end SiteVpn
