import SiteVpn.Proofs.Expansion

/-!
# The parts of a connection, tunnel by tunnel

The parts of a connection are those of its tunnels laid over one another, and each
tunnel's parts are made of its own expansion. What the seven maps of a tunnel hold is
said here once, by their names.
-/

namespace SiteVpn

section Numbered

variable {α : Type} {x : String} {start : Nat} {vs : List α}

theorem getElem?_numberedNames {count i : Nat} (h : i < count) :
    (numberedNames x start count)[i]? = some (numberedName x (start + i)) := by
  rw [numberedNames, List.getElem?_map, List.getElem?_range' h]
  simp

/-- The entries of numbered values: each is under its own number. -/
theorem mem_zip_numberedNames {k : String} {v : α} :
    (k, v) ∈ (numberedNames x start vs.length).zip vs ↔
      ∃ i, vs[i]? = some v ∧ k = numberedName x (start + i) := by
  rw [List.mem_iff_getElem?]
  constructor
  · rintro ⟨i, hi⟩
    obtain ⟨hk, hv⟩ := List.getElem?_zip_eq_some.mp hi
    rw [getElem?_numberedNames (List.getElem?_eq_some_iff.mp hv).1] at hk
    exact ⟨i, hv, (Option.some.inj hk).symm⟩
  · rintro ⟨i, hv, rfl⟩
    refine ⟨i, List.getElem?_zip_eq_some.mpr ⟨?_, hv⟩⟩
    exact getElem?_numberedNames (List.getElem?_eq_some_iff.mp hv).1

theorem get?_ofList_numbered {i : Nat} {v : α} (h : vs[i]? = some v) :
    (NameMap.ofList ((numberedNames x start vs.length).zip vs)).get?
      (numberedName x (start + i)) = some v := by
  apply NameMap.get?_ofList_of_mem
  · exact mem_zip_numberedNames.mpr ⟨i, h, rfl⟩
  · intro w hw
    obtain ⟨j, hj, hij⟩ := mem_zip_numberedNames.mp hw
    have heq : i = j := by
      have hn := (numberedName_inj hij).2
      omega
    subst heq
    exact Option.some.inj (hj.symm.trans h)

theorem contains_ofList_numbered {name : String} (h : name ∈ numberedNames x start vs.length) :
    (NameMap.ofList ((numberedNames x start vs.length).zip vs)).contains name := by
  obtain ⟨i, hi⟩ := List.mem_iff_getElem?.mp h
  have hlt : i < vs.length := by
    simpa [numberedNames] using (List.getElem?_eq_some_iff.mp hi).1
  rw [getElem?_numberedNames hlt] at hi
  obtain rfl := Option.some.inj hi
  exact NameMap.contains_of_get? (get?_ofList_numbered (List.getElem?_eq_getElem hlt))

/-- Numbered names are looked up as the values that are numbered. -/
theorem map_get?_numberedNames {m : NameMap α}
    (h : ∀ i v, vs[i]? = some v → m.get? (numberedName x i) = some v) :
    (numberedNames x 0 vs.length).map m.get? = vs.map some := by
  apply List.ext_getElem?
  intro i
  rw [List.getElem?_map, List.getElem?_map]
  cases hv : vs[i]? with
  | some v =>
      rw [getElem?_numberedNames (List.getElem?_eq_some_iff.mp hv).1]
      simpa using h i v hv
  | none =>
      have hlen : (numberedNames x 0 vs.length).length ≤ i := by
        simpa [numberedNames] using List.getElem?_eq_none_iff.mp hv
      rw [List.getElem?_eq_none hlen]
      rfl

/-- So the value of each number is looked up under its name. -/
theorem get?_of_map_numberedNames {m : NameMap α}
    (h : (numberedNames x 0 vs.length).map m.get? = vs.map some) {i : Nat} {v : α}
    (hv : vs[i]? = some v) : m.get? (numberedName x i) = some v := by
  have hi := congrArg (·[i]?) h
  simp only [List.getElem?_map, hv,
    getElem?_numberedNames (List.getElem?_eq_some_iff.mp hv).1, Nat.zero_add] at hi
  exact Option.some.inj hi

end Numbered

namespace Tunnel

/-- An expansion of a tunnel without unknown tokens. -/
structure Expansion (t : Tunnel) (tunnelId : String) where
  phase1 : List Phase1Proposal
  phase2 : List Phase2Proposal
  policies : List Phase2Policy
  phase1_eq : t.phase1Proposals tunnelId = .ok phase1
  phase2_eq : t.phase2Proposals.value = .ok phase2
  policies_eq : t.phase2Policies (phase2ProposalNames tunnelId phase2.length) = .ok policies

namespace Expansion

variable {t : Tunnel} {tunnelId : String}

/-- The parts of a tunnel of a connection. -/
def parts (e : t.Expansion tunnelId) (c : Connection) (p : Placement) : Artifacts :=
  c.tunnelParts p tunnelId t e.phase1 e.phase2 e.policies

variable (e : t.Expansion tunnelId) (c : Connection) (p : Placement)

theorem policy_proposals {policy : Phase2Policy} (h : policy ∈ e.policies) :
    policy.proposals = numberedNames tunnelId 0 e.phase2.length := by
  obtain ⟨groups, -, hp⟩ := phase2Policies_eq_ok e.policies_eq
  rw [hp] at h
  obtain ⟨group, -, rfl⟩ := List.mem_map.mp h
  rfl

/-- The policy of each group of phase 2. -/
theorem policy_of_group {g : Nat} {token : String} (h : t.ipsecGroups[g]? = some token) :
    ∃ group policy, Vocabulary.ofToken DiffieHellmanGroup token = .ok group ∧
      e.policies[g]? = some policy ∧ policy.pfsGroup = some group := by
  obtain ⟨groups, hg, hp⟩ := phase2Policies_eq_ok e.policies_eq
  obtain ⟨group, hgroup, htoken⟩ := getElem?_of_mapM hg h
  have hpolicy : e.policies[g]? =
      some ⟨some group, phase2ProposalNames tunnelId e.phase2.length⟩ := by
    rw [hp, List.getElem?_map, hgroup]
    rfl
  exact ⟨group, _, htoken, hpolicy, rfl⟩

theorem get?_phase1Proposals {q : Phase1Proposal} (h : q ∈ e.phase1) :
    (e.parts c p).phase1Proposals.get? q.name = some q := by
  apply NameMap.get?_ofList_of_mem
  · exact List.mem_map_of_mem h
  · intro r hr
    obtain ⟨r', hr', heq⟩ := List.mem_map.mp hr
    obtain ⟨hname, rfl⟩ := Prod.mk.inj heq
    exact eq_of_name_eq e.phase1_eq hr' h hname

theorem get?_phase1Policies :
    (e.parts c p).phase1Policies.get? tunnelId =
      some (t.phase1Policy tunnelId (e.phase1.map (·.name))) :=
  NameMap.get?_singleton_self _ _

theorem get?_phase2Proposals {i : Nat} {q : Phase2Proposal} (h : e.phase2[i]? = some q) :
    (e.parts c p).phase2Proposals.get? (numberedName tunnelId i) = some q := by
  have hi : numberedName tunnelId i = numberedName tunnelId (0 + i) := by rw [Nat.zero_add]
  rw [hi]
  exact get?_ofList_numbered h

theorem get?_phase2Policies {g : Nat} {policy : Phase2Policy} (h : e.policies[g]? = some policy) :
    (e.parts c p).phase2Policies.get? (numberedName tunnelId (e.phase2.length + g)) =
      some policy :=
  get?_ofList_numbered h

/-- The phase 2 proposals of a tunnel are numbered from zero. -/
theorem number_of_get?_phase2Proposals {name : String} {q : Phase2Proposal}
    (h : (e.parts c p).phase2Proposals.get? name = some q) :
    ∃ i, e.phase2[i]? = some q ∧ name = numberedName tunnelId i := by
  obtain ⟨i, hi, hn⟩ := mem_zip_numberedNames.mp (NameMap.mem_of_get?_ofList h)
  rw [Nat.zero_add] at hn
  exact ⟨i, hi, hn⟩

/-- So they are looked up by their numbers. -/
theorem get?_phase2Proposals_numbered (i : Nat) :
    (e.parts c p).phase2Proposals.get? (numberedName tunnelId i) = e.phase2[i]? := by
  cases hi : e.phase2[i]? with
  | some q => exact e.get?_phase2Proposals c p hi
  | none =>
      cases hq : (e.parts c p).phase2Proposals.get? (numberedName tunnelId i) with
      | none => rfl
      | some q =>
          obtain ⟨j, hj, hn⟩ := e.number_of_get?_phase2Proposals c p hq
          obtain rfl := (numberedName_inj hn).2
          rw [hi] at hj
          cases hj

/-- Its phase 2 policies are numbered after them. -/
theorem number_of_get?_phase2Policies {name : String} {policy : Phase2Policy}
    (h : (e.parts c p).phase2Policies.get? name = some policy) :
    ∃ g, e.policies[g]? = some policy ∧
      name = numberedName tunnelId (e.phase2.length + g) :=
  mem_zip_numberedNames.mp (NameMap.mem_of_get?_ofList h)

end Expansion

end Tunnel

namespace Connection

variable {c : Connection} {p : Placement}

/-- The expansions of a tunnel are made one after another, and each may fail. -/
theorem value_tunnelArtifacts (tunnelId : String) (t : Tunnel) :
    (c.tunnelArtifacts p tunnelId t).value = (do
      let phase1 ← t.phase1Proposals tunnelId
      let phase2 ← t.phase2Proposals.value
      let policies ← t.phase2Policies (Tunnel.phase2ProposalNames tunnelId phase2.length)
      return c.tunnelParts p tunnelId t phase1 phase2 policies) := by
  unfold tunnelArtifacts
  cases t.phase1Proposals tunnelId with
  | error u => rfl
  | ok phase1 =>
      dsimp only
      cases t.phase2Proposals.value with
      | error u => rfl
      | ok phase2 =>
          dsimp only
          cases h : t.phase2Policies (Tunnel.phase2ProposalNames tunnelId phase2.length) with
          | error u => simp [bind, Except.bind, h]
          | ok policies => simp [bind, Except.bind, h, pure, Except.pure]

/-- So are the parts of the tunnels, of which the earlier come below the later. -/
theorem value_synthesizeFrom_cons (n : Nat) (t : Tunnel) (ts : List Tunnel) :
    (c.synthesizeFrom p n (t :: ts)).value = (do
      let a ← (c.tunnelArtifacts p (Tunnel.idOf c.id n) t).value
      let rest ← (c.synthesizeFrom p (n + 1) ts).value
      return a.append rest) := by
  rw [synthesizeFrom]
  dsimp only
  cases (c.tunnelArtifacts p (Tunnel.idOf c.id n) t).value with
  | error u => rfl
  | ok a =>
      dsimp only
      cases (c.synthesizeFrom p (n + 1) ts).value <;> rfl

/-- The parts of a tunnel are those of its expansion. -/
theorem tunnelArtifacts_eq_ok {tunnelId : String} {t : Tunnel} {b : Artifacts} :
    (c.tunnelArtifacts p tunnelId t).value = .ok b ↔
      ∃ e : t.Expansion tunnelId, e.parts c p = b := by
  rw [value_tunnelArtifacts]
  constructor
  · intro h
    obtain ⟨phase1, h₁, h⟩ := bind_eq_ok.mp h
    obtain ⟨phase2, h₂, h⟩ := bind_eq_ok.mp h
    obtain ⟨policies, h₃, h⟩ := bind_eq_ok.mp h
    exact ⟨⟨phase1, phase2, policies, h₁, h₂, h₃⟩, Except.ok.inj h⟩
  · rintro ⟨e, rfl⟩
    apply bind_eq_ok.mpr ⟨e.phase1, e.phase1_eq, ?_⟩
    apply bind_eq_ok.mpr ⟨e.phase2, e.phase2_eq, ?_⟩
    exact bind_eq_ok.mpr ⟨e.policies, e.policies_eq, rfl⟩

theorem synthesizeFrom_cons_eq_ok {n : Nat} {t : Tunnel} {ts : List Tunnel} {a : Artifacts}
    (h : (c.synthesizeFrom p n (t :: ts)).value = .ok a) :
    ∃ (e : t.Expansion (Tunnel.idOf c.id n)) (rest : Artifacts),
      (c.synthesizeFrom p (n + 1) ts).value = .ok rest ∧ (e.parts c p).append rest = a := by
  rw [value_synthesizeFrom_cons] at h
  obtain ⟨b, hb, h⟩ := bind_eq_ok.mp h
  obtain ⟨rest, hrest, h⟩ := bind_eq_ok.mp h
  obtain ⟨e, rfl⟩ := tunnelArtifacts_eq_ok.mp hb
  exact ⟨e, rest, hrest, Except.ok.inj h⟩

/-- The expansion of a tunnel gives no warning. -/
theorem warningsOf_tunnelArtifacts (tunnelId : String) (t : Tunnel) :
    warningsOf (c.tunnelArtifacts p tunnelId t).events = [] := by
  unfold tunnelArtifacts
  split
  · rfl
  · dsimp only
    rw [Tunnel.events_phase2Proposals]
    split
    · rfl
    · split <;> rfl

theorem warningsOf_synthesizeFrom (n : Nat) (ts : List Tunnel) :
    warningsOf (c.synthesizeFrom p n ts).events = [] := by
  induction ts generalizing n with
  | nil => rfl
  | cons t ts ih =>
      rw [synthesizeFrom]
      have ht := warningsOf_tunnelArtifacts (c := c) (p := p) (Tunnel.idOf c.id n) t
      dsimp only
      split
      · exact ht
      · unfold warningsOf at ht ih ⊢
        rw [List.filterMap_append, ht, ih]
        rfl

/-- Synthesis gives no warning, whether it succeeds or not. -/
theorem warningsOf_synthesize (c : Connection) (p : Placement) :
    warningsOf (c.synthesize p).events = [] :=
  warningsOf_synthesizeFrom 1 c.tunnels

end Connection

end SiteVpn
