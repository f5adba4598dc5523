import SiteVpn.Proofs.Ownership

/-!
# Synthesized names do not collide

Two maps are disjoint when no name has a value in both. Each name of a part belongs to
one tunnel, whatever its kind, so the parts of different connections are disjoint and so
are those of the tunnels of one connection. Within a tunnel, names are told apart by the
tokens that they are made of in phase 1 and by their numbers in phase 2.
-/

namespace SiteVpn

namespace NameMap

variable {α β : Type}

/-- No name has a value in both maps. -/
def Disjoint (m : NameMap α) (n : NameMap β) : Prop :=
  ∀ name, m.get? name = none ∨ n.get? name = none

theorem disjoint_of_get? {m : NameMap α} {n : NameMap β}
    (h : ∀ name v w, m.get? name = some v → n.get? name = some w → False) : m.Disjoint n := by
  intro name
  cases hm : m.get? name with
  | none => exact .inl rfl
  | some v =>
      cases hn : n.get? name with
      | none => exact .inr rfl
      | some w => exact absurd (h name v w hm hn) id

end NameMap

/-- Maps of the same kind are disjoint. -/
structure NamedParts.Disjoint (m n : NamedParts) : Prop where
  interfaces : m.interfaces.Disjoint n.interfaces
  phase1Proposals : m.phase1Proposals.Disjoint n.phase1Proposals
  phase1Keys : m.phase1Keys.Disjoint n.phase1Keys
  phase1Policies : m.phase1Policies.Disjoint n.phase1Policies
  phase2Proposals : m.phase2Proposals.Disjoint n.phase2Proposals
  phase2Policies : m.phase2Policies.Disjoint n.phase2Policies
  peerConfigs : m.peerConfigs.Disjoint n.peerConfigs

/-- The kinds of parts are all that there is to show. -/
theorem NamedParts.disjoint_of_kinds {m n : NamedParts}
    (h : ∀ {α : Type} (S : PartKind α), (S.map m).Disjoint (S.map n)) : m.Disjoint n where
  interfaces := h .interfaces
  phase1Proposals := h .phase1Proposals
  phase1Keys := h .phase1Keys
  phase1Policies := h .phase1Policies
  phase2Proposals := h .phase2Proposals
  phase2Policies := h .phase2Policies
  peerConfigs := h .peerConfigs

namespace Connection

variable {c c' : Connection} {p p' : Placement} {a a' : Artifacts}

/-- Connections of different names have disjoint parts. -/
theorem disjoint_of_id_ne (hid : c.id ≠ c'.id) (h : (c.synthesize p).value = .ok a)
    (h' : (c'.synthesize p').value = .ok a') : a.named.Disjoint a'.named := by
  apply NamedParts.disjoint_of_kinds
  intro α S
  apply NameMap.disjoint_of_get?
  intro name v w hv hw
  obtain ⟨i, t, -, hS⟩ := S.exists_owner_of_get? h hv
  obtain ⟨j, u, -, hS'⟩ := S.exists_owner_of_get? h' hw
  exact hid (numberedName_inj (S.owner_unique hS hS')).1

/-- So have tunnels of different names. -/
theorem disjoint_of_tunnelId_ne {x y : String} {t u : Tunnel} (hne : x ≠ y)
    (h : (c.tunnelArtifacts p x t).value = .ok a)
    (h' : (c'.tunnelArtifacts p' y u).value = .ok a') : a.named.Disjoint a'.named := by
  obtain ⟨e, rfl⟩ := tunnelArtifacts_eq_ok.mp h
  obtain ⟨e', rfl⟩ := tunnelArtifacts_eq_ok.mp h'
  apply NamedParts.disjoint_of_kinds
  intro α S
  apply NameMap.disjoint_of_get?
  intro name v w hv hw
  exact hne (S.owner_unique (S.owns_of_get? e c p hv) (S.owns_of_get? e' c' p' hw))

/-- The phase 2 policies of a connection have other names than its phase 2 proposals. -/
theorem phase2Policies_disjoint_phase2Proposals (h : (c.synthesize p).value = .ok a) :
    a.phase2Policies.Disjoint a.phase2Proposals := by
  apply NameMap.disjoint_of_get?
  intro name policy q hpolicy hq
  obtain ⟨i, t, ht, hS⟩ := PartKind.phase2Policies.exists_owner_of_get? h hpolicy
  obtain ⟨e, he⟩ := PartKind.get?_synthesizeFrom h ht
  -- Both kinds of names are numbered, so the tunnel owns the name as either.
  have hpolicy' := (he .phase2Policies hS).symm.trans hpolicy
  have hq' := (he .phase2Proposals hS).symm.trans hq
  obtain ⟨g, -, hg⟩ := e.number_of_get?_phase2Policies c p hpolicy'
  obtain ⟨k, hk, hn⟩ := e.number_of_get?_phase2Proposals c p hq'
  have hlt : k < e.phase2.length := (List.getElem?_eq_some_iff.mp hk).1
  have heq : e.phase2.length + g = k := (numberedName_inj (hg.symm.trans hn)).2
  omega

end Connection

/-- Phase 1 proposals of a tunnel with one name come from the same tokens. -/
theorem Tunnel.tokens_eq_of_name_eq {tunnelId : String} {t : Tunnel}
    {proposals : List Phase1Proposal} (h : t.phase1Proposals tunnelId = .ok proposals)
    {i j : Nat} {q r : Phase1Proposal} (hq : proposals[i]? = some q)
    (hr : proposals[j]? = some r) (hname : q.name = r.name) :
    t.phase1Combinations[i]? = t.phase1Combinations[j]? := by
  obtain ⟨tokens, hi, hqt⟩ := exists_getElem?_of_mapM h hq
  obtain ⟨tokens', hj, hrt⟩ := exists_getElem?_of_mapM h hr
  obtain ⟨hknown, hqn⟩ := phase1Proposal_eq_ok hqt
  obtain ⟨hknown', hrn⟩ := phase1Proposal_eq_ok hrt
  obtain ⟨-, rfl⟩ := phase1Name_inj hknown hknown' (hqn ▸ hrn ▸ hname)
  rw [hi, hj]

/-- Synthesized names do not collide. The parts of two connections whose names differ, be
one the beginning of the other, are disjoint in all seven maps, and so are the parts of
two tunnels of one connection. No phase 2 policy of a connection has the name of a phase 2
proposal, and phase 1 proposals of a tunnel have one name only where they come from the
same tokens. A name made of known tokens determines connection, tunnel and tokens, and a
numbered name determines connection, tunnel and number. -/
theorem names_do_not_collide :
    (∀ (c c' : Connection) (p p' : Placement) (a a' : Artifacts), c.id ≠ c'.id →
      (c.synthesize p).value = .ok a → (c'.synthesize p').value = .ok a' →
      a.named.Disjoint a'.named) ∧
    (∀ (c : Connection) (p : Placement) (i j : Nat) (t u : Tunnel) (a b : Artifacts), i ≠ j →
      c.tunnels[i]? = some t → c.tunnels[j]? = some u →
      (c.tunnelArtifacts p (Tunnel.idOf c.id (i + 1)) t).value = .ok a →
      (c.tunnelArtifacts p (Tunnel.idOf c.id (j + 1)) u).value = .ok b →
      a.named.Disjoint b.named) ∧
    (∀ (c : Connection) (p : Placement) (a : Artifacts), (c.synthesize p).value = .ok a →
      a.phase2Policies.Disjoint a.phase2Proposals) ∧
    (∀ (t : Tunnel) (tunnelId : String) (proposals : List Phase1Proposal) (i j : Nat)
      (q r : Phase1Proposal), t.phase1Proposals tunnelId = .ok proposals →
      proposals[i]? = some q → proposals[j]? = some r → q.name = r.name →
      t.phase1Combinations[i]? = t.phase1Combinations[j]?) ∧
    (∀ (id id' : String) (m n : Nat) (tokens tokens' : Tunnel.Phase1Tokens),
      tokens.Known → tokens'.Known →
      Tunnel.phase1Name (Tunnel.idOf id m) tokens = Tunnel.phase1Name (Tunnel.idOf id' n) tokens' →
      id = id' ∧ m = n ∧ tokens = tokens') ∧
    ∀ (id id' : String) (m n i j : Nat),
      numberedName (Tunnel.idOf id m) i = numberedName (Tunnel.idOf id' n) j →
      id = id' ∧ m = n ∧ i = j := by
  refine ⟨?_, ?_, ?_, ?_, ?_, ?_⟩
  · intro c c' p p' a a' hid h h'
    exact Connection.disjoint_of_id_ne hid h h'
  · intro c p i j t u a b hij _ _ h h'
    apply Connection.disjoint_of_tunnelId_ne _ h h'
    intro heq
    have hn := (numberedName_inj heq).2
    omega
  · intro c p a h
    exact Connection.phase2Policies_disjoint_phase2Proposals h
  · intro t tunnelId proposals i j q r h hq hr hname
    exact Tunnel.tokens_eq_of_name_eq h hq hr hname
  · intro id id' m n tokens tokens' hknown hknown' h
    obtain ⟨hid, heq⟩ := Tunnel.phase1Name_inj hknown hknown' h
    obtain ⟨rfl, rfl⟩ := numberedName_inj hid
    exact ⟨rfl, rfl, heq⟩
  · intro id id' m n i j h
    obtain ⟨hid, hij⟩ := numberedName_inj h
    obtain ⟨rfl, rfl⟩ := numberedName_inj hid
    exact ⟨rfl, rfl, hij⟩

/-- Connections of which the name of one looks like that of a tunnel of the other. -/
theorem names_do_not_collide_extended_id :
    let t : Tunnel :=
      { (default : Tunnel) with
        ikeGroups := ["2"], ikeEncryption := ["AES128", "AES128"], ipsecIntegrity := ["SHA1"]
        ipsecEncryption := ["AES128"], ipsecGroups := ["14"] }
    let c : Connection := { (default : Connection) with id := "a", tunnels := [t, t] }
    let c' : Connection := { c with id := "a-1" }
    let p : Placement := ⟨"outer", "inner", none, none⟩
    let tokens : Tunnel.Phase1Tokens := ⟨"2", "SHA1", "AES128"⟩
    (∃ a a', (c.synthesize p).value = .ok a ∧ (c'.synthesize p).value = .ok a' ∧
      a.named.Disjoint a'.named ∧ a.phase2Policies.Disjoint a.phase2Proposals) ∧
    (∃ a b, (c.tunnelArtifacts p (Tunnel.idOf "a" 1) t).value = .ok a ∧
      (c.tunnelArtifacts p (Tunnel.idOf "a" 2) t).value = .ok b ∧ a.named.Disjoint b.named) ∧
    (∃ q r, t.phase1Proposals (Tunnel.idOf "a" 1) = .ok [q, r] ∧ q.name = r.name ∧
      t.phase1Combinations[0]? = t.phase1Combinations[1]?) ∧
    Tunnel.phase1Name (Tunnel.idOf "a" 2) tokens ≠ Tunnel.phase1Name (Tunnel.idOf "a-1" 2) tokens ∧
    numberedName (Tunnel.idOf "a" 1) 2 ≠ numberedName (Tunnel.idOf "a-1" 2) 0 := by
  intro t c c' p tokens
  obtain ⟨hconnections, htunnels, hphase2, htokens, hphase1, hnumbers⟩ := names_do_not_collide
  have hknown : tokens.Known := by constructor <;> decide
  refine ⟨⟨_, _, rfl, rfl, ?_, ?_⟩, ⟨_, _, rfl, rfl, ?_⟩, ⟨_, _, rfl, ?_, ?_⟩, ?_, ?_⟩
  · exact hconnections c c' p p _ _ (by decide) rfl rfl
  · exact hphase2 c p _ rfl
  · exact htunnels c p 0 1 t t _ _ (by decide) rfl rfl rfl rfl
  · rfl
  · exact htokens t (Tunnel.idOf "a" 1) _ 0 1 _ _ rfl rfl rfl rfl
  · intro h
    exact absurd (hphase1 _ _ _ _ _ _ hknown hknown h).1 (by decide)
  · intro h
    exact absurd (hnumbers _ _ _ _ _ _ h).1 (by decide)

end SiteVpn
