import SiteVpn.Proofs.Ownership
import SiteVpn.Proofs.Reference

/-!
# What an attempt leaves of earlier phase 2 policies

Nothing is ever removed from a device, so a phase 2 policy that an attempt does not
replace stays. It is numbered after the proposals that it names, which are the first of
its tunnel. Where the attempt attaches that tunnel again, the new proposals come in the
places of the first old ones, and the policy means the same exactly if they agree.
-/

namespace SiteVpn

section Overwritten

variable {α : Type}

/-- A list with its first elements replaced, as far as others are given for them. -/
def overwritten (old new : List α) : List α :=
  new.take old.length ++ old.drop new.length

@[simp] theorem length_overwritten (old new : List α) :
    (overwritten old new).length = old.length := by
  simp only [overwritten, List.length_append, List.length_take, List.length_drop]
  omega

theorem getElem?_overwritten {old new : List α} {i : Nat} (h : i < old.length) :
    (overwritten old new)[i]? = new[i]?.or old[i]? := by
  by_cases hi : i < new.length
  · have htake : i < (new.take old.length).length := by
      rw [List.length_take]
      omega
    rw [overwritten, List.getElem?_append_left htake, List.getElem?_take_of_lt h,
      List.getElem?_eq_getElem hi]
    rfl
  · have htake : new.take old.length = new := List.take_of_length_le (by omega)
    rw [overwritten, htake, List.getElem?_append_right (by omega), List.getElem?_drop,
      List.getElem?_eq_none (Nat.le_of_not_lt hi), Option.none_or]
    congr 1
    omega

/-- Nothing changes where what is replaced is replaced by its like. -/
theorem overwritten_eq_iff {old new : List α} :
    overwritten old new = old ↔ new.take old.length = old.take new.length := by
  constructor
  · intro h
    rw [overwritten] at h
    have hsplit := h.trans (List.take_append_drop new.length old).symm
    exact List.append_cancel_right hsplit
  · intro h
    rw [overwritten, h, List.take_append_drop]

end Overwritten

/-- Where every name has a value, names resolve to a list of values. -/
theorem NameMap.exists_map_get? {α : Type} {m : NameMap α} {names : List String}
    (h : ∀ name ∈ names, m.contains name) : ∃ vs : List α, names.map m.get? = vs.map some := by
  induction names with
  | nil => exact ⟨[], rfl⟩
  | cons name names ih =>
      obtain ⟨hname, hnames⟩ := List.forall_mem_cons.mp h
      obtain ⟨v, hv⟩ := (m.contains_iff name).mp hname
      obtain ⟨vs, hvs⟩ := ih hnames
      refine ⟨v :: vs, ?_⟩
      rw [List.map_cons, List.map_cons, hv, hvs]

/-- Whether a phase 2 policy names the first proposals of the tunnel at a position of a
connection, so many of them, and is numbered after them. -/
structure Phase2Policy.IsNumbered (policy : Phase2Policy) (key id : String) (i count : Nat) :
    Prop where
  key_eq : ∃ g, key = numberedName (Tunnel.idOf id (i + 1)) (count + g)
  proposals_eq : policy.proposals = numberedNames (Tunnel.idOf id (i + 1)) 0 count

/-- The tunnel is told by the key. -/
theorem Phase2Policy.IsNumbered.tunnel_eq {policy : Phase2Policy} {x id : String}
    {j m i count : Nat}
    (h : policy.IsNumbered (numberedName (Tunnel.idOf x (j + 1)) m) id i count) :
    id = x ∧ i = j := by
  obtain ⟨g, hg⟩ := h.key_eq
  obtain ⟨hid, hij⟩ := numberedName_inj (numberedName_inj hg).1
  exact ⟨hid.symm, by omega⟩

/-- So are the phase 2 policies of a connection. -/
theorem Connection.exists_isNumbered {c : Connection} {p : Placement} {a : Artifacts}
    (h : (c.synthesize p).value = .ok a) {key : String} {policy : Phase2Policy}
    (hpolicy : a.phase2Policies.get? key = some policy) :
    ∃ id i count, policy.IsNumbered key id i count := by
  obtain ⟨i, t, ht, hS⟩ := PartKind.phase2Policies.exists_owner_of_get? h hpolicy
  rw [Nat.add_comm 1 i] at hS
  obtain ⟨e, he⟩ := PartKind.get?_synthesize h ht
  have hget := (he .phase2Policies hS).symm.trans hpolicy
  obtain ⟨g, hg, hkey⟩ := e.number_of_get?_phase2Policies c p hget
  have hproposals := e.policy_proposals (List.mem_of_getElem? hg)
  exact ⟨c.id, i, e.phase2.length, ⟨⟨g, hkey⟩, hproposals⟩⟩

namespace Configuration

/-- So are those of a device. -/
def PoliciesNumbered (d : Configuration) : Prop :=
  ∀ key policy, d.phase2Policies.get? key = some policy →
    ∃ id i count, policy.IsNumbered key id i count

theorem policiesNumbered_ofHostname (hostname : String) :
    (ofHostname hostname).PoliciesNumbered := by
  intro key policy h
  cases h

theorem PoliciesNumbered.attempt {d : Configuration} (h : d.PoliciesNumbered) (k : Attempt) :
    (k.perform d).PoliciesNumbered := by
  by_cases hr : k.reply d = .ok true
  · obtain ⟨-, a, hs⟩ := Attempt.reply_eq_true_iff.mp hr
    have hmap : (k.perform d).phase2Policies = d.phase2Policies.extend a.phase2Policies :=
      congrArg NamedParts.phase2Policies (Attempt.named_perform hr hs)
    intro key policy hpolicy
    rw [hmap, NameMap.get?_extend, Option.or_eq_some_iff] at hpolicy
    rcases hpolicy with hpolicy | ⟨-, hpolicy⟩
    · exact Connection.exists_isNumbered hs hpolicy
    · exact h key policy hpolicy
  · rw [Attempt.perform_of_reply_ne hr]
    exact h

/-- Only attempts change the policies of a device. -/
theorem PoliciesNumbered.operation {d : Configuration} (h : d.PoliciesNumbered)
    (op : Operation) : (op.perform d).PoliciesNumbered := by
  cases op with
  | ensureVrf name => exact h
  | initInfrastructure => exact h
  | addRoutingPolicy policy => exact h
  | attempt k => exact h.attempt k

theorem PoliciesNumbered.afterOperations {d : Configuration} (h : d.PoliciesNumbered)
    (ops : List Operation) : (d.afterOperations ops).PoliciesNumbered :=
  afterOperations_induction (P := PoliciesNumbered) (fun _ op hd => hd.operation op) h ops

end Configuration

/-- Where a tunnel is attached again, its new proposals come in the places of the first. -/
theorem Attempt.get?_perform_of_tunnel {k : Attempt} {d : Configuration}
    (hr : k.reply d = .ok true) {i : Nat} {t : Tunnel}
    (ht : k.connection.tunnels[i]? = some t) {new : List Phase2Proposal}
    (hnew : t.phase2Proposals.value = .ok new) (j : Nat) :
    (k.perform d).phase2Proposals.get?
        (numberedName (Tunnel.idOf k.connection.id (i + 1)) j) =
      new[j]?.or (d.phase2Proposals.get?
        (numberedName (Tunnel.idOf k.connection.id (i + 1)) j)) := by
  obtain ⟨-, a, hs⟩ := reply_eq_true_iff.mp hr
  obtain ⟨e, he⟩ := PartKind.get?_synthesize hs ht
  obtain rfl := Except.ok.inj (hnew.symm.trans e.phase2_eq)
  have hmap : (k.perform d).phase2Proposals = d.phase2Proposals.extend a.phase2Proposals :=
    congrArg NamedParts.phase2Proposals (named_perform hr hs)
  have ha := he .phase2Proposals ⟨j, rfl⟩
  rw [hmap, NameMap.get?_extend]
  congr 1
  exact ha.trans (e.get?_phase2Proposals_numbered k.connection k.placement j)

namespace Configuration

/-- Each phase 2 policy of a device resolves to some proposals. -/
theorem exists_resolved (hostname : String) (ops : List Operation) {key : String}
    {policy : Phase2Policy}
    (h : ((ofHostname hostname).afterOperations ops).phase2Policies.get? key = some policy) :
    ∃ id i, ∃ old : List Phase2Proposal, policy.IsNumbered key id i old.length ∧
      policy.proposals.map ((ofHostname hostname).afterOperations ops).phase2Proposals.get? =
        old.map some := by
  -- All its names have proposals as the device is closed, and its number tells how many.
  have hclosed := (closed_ofHostname hostname).afterOperations ops
  obtain ⟨old, hold⟩ := NameMap.exists_map_get? fun name hname =>
    hclosed.phase2Policy_proposals key policy h name hname
  have hnumbered := (policiesNumbered_ofHostname hostname).afterOperations ops
  obtain ⟨id, i, count, hp⟩ := hnumbered key policy h
  have hcount : count = old.length := by
    have hlength := congrArg List.length hold
    simpa [hp.proposals_eq, numberedNames] using hlength
  exact ⟨id, i, old, hcount ▸ hp, hold⟩

section Resolve

variable {d : Configuration} {k : Attempt} {policy : Phase2Policy} {key id : String} {i : Nat}
  {old : List Phase2Proposal}

/-- A policy of a tunnel that is attached again resolves to the new proposals as far as
there are some, and then to the old ones. -/
theorem map_get?_perform_of_tunnel (hpolicy : policy.IsNumbered key k.connection.id i old.length)
    (hold : policy.proposals.map d.phase2Proposals.get? = old.map some)
    (hr : k.reply d = .ok true) {t : Tunnel} (ht : k.connection.tunnels[i]? = some t)
    {new : List Phase2Proposal} (hnew : t.phase2Proposals.value = .ok new) :
    policy.proposals.map (k.perform d).phase2Proposals.get? =
      (overwritten old new).map some := by
  rw [hpolicy.proposals_eq] at hold ⊢
  rw [← length_overwritten old new]
  apply map_get?_numberedNames
  intro j q hq
  -- There are as many names as old proposals, so each name has an old one to fall back on.
  have hj : j < old.length := by
    rw [← length_overwritten old new]
    exact (List.getElem?_eq_some_iff.mp hq).1
  rw [getElem?_overwritten hj, List.getElem?_eq_getElem hj] at hq
  have hget := get?_of_map_numberedNames hold (List.getElem?_eq_getElem hj)
  rw [Attempt.get?_perform_of_tunnel hr ht hnew, hget]
  exact hq

/-- Any other policy resolves to what it did. -/
theorem map_get?_perform_of_no_tunnel (hpolicy : policy.IsNumbered key id i old.length)
    (hno : k.connection.id = id → k.connection.tunnels[i]? = none) :
    policy.proposals.map (k.perform d).phase2Proposals.get? =
      policy.proposals.map d.phase2Proposals.get? := by
  apply List.map_congr_left
  intro name hname
  rw [hpolicy.proposals_eq] at hname
  obtain ⟨j, -, rfl⟩ := List.mem_map.mp hname
  apply PartKind.phase2Proposals.get?_perform_of_no_tunnel _ ⟨j, rfl⟩
  intro i' t ht heq
  obtain ⟨hid, hi⟩ := numberedName_inj heq
  obtain rfl : i' = i := by omega
  rw [hno hid] at ht
  cases ht

end Resolve

/-- A phase 2 policy that an attempt does not replace stays on the device. It is numbered
after the first proposals of a tunnel, which it names. Where the attempt attaches that
tunnel, with new proposals, it resolves to these as far as there are some and then to the
old ones. So it resolves to what it did exactly if the new proposals of its tunnel, if
there are any, agree with the old ones wherever both have one. -/
theorem surviving_policies_resolve (hostname : String) (ops : List Operation) (k : Attempt)
    (a : Artifacts) (key : String) (policy : Phase2Policy) :
    let d := (ofHostname hostname).afterOperations ops
    let final := k.perform d
    k.reply d = .ok true → k.synthesis = .ok a →
    d.phase2Policies.get? key = some policy → a.phase2Policies.get? key = none →
    final.phase2Policies.get? key = some policy ∧
    ∃ id i, ∃ old : List Phase2Proposal, policy.IsNumbered key id i old.length ∧
      policy.proposals.map d.phase2Proposals.get? = old.map some ∧
      (∀ t new, k.connection.id = id → k.connection.tunnels[i]? = some t →
        t.phase2Proposals.value = .ok new →
        policy.proposals.map final.phase2Proposals.get? = (overwritten old new).map some) ∧
      (policy.proposals.map final.phase2Proposals.get? =
          policy.proposals.map d.phase2Proposals.get? ↔
        ∀ t new, k.connection.id = id → k.connection.tunnels[i]? = some t →
          t.phase2Proposals.value = .ok new →
          new.take old.length = old.take new.length) := by
  intro d final hr hs hpolicy hkey
  have hstays : final.phase2Policies.get? key = some policy := by
    have hmap : final.phase2Policies = d.phase2Policies.extend a.phase2Policies :=
      congrArg NamedParts.phase2Policies (Attempt.named_perform hr hs)
    rw [hmap, NameMap.get?_extend, hkey, hpolicy]
    rfl
  obtain ⟨id, i, old, hp, hold⟩ := exists_resolved hostname ops hpolicy
  have hagain : ∀ t new, k.connection.id = id → k.connection.tunnels[i]? = some t →
      t.phase2Proposals.value = .ok new →
      policy.proposals.map final.phase2Proposals.get? = (overwritten old new).map some := by
    rintro t new rfl ht hnew
    exact map_get?_perform_of_tunnel hp hold hr ht hnew
  refine ⟨hstays, id, i, old, hp, hold, hagain, ?_⟩
  constructor
  · intro hsame t new hid ht hnew
    rw [hagain t new hid ht hnew, hold] at hsame
    exact overwritten_eq_iff.mp ((List.map_inj_right fun _ _ => Option.some.inj).mp hsame)
  · intro hagree
    by_cases hno : k.connection.id = id → k.connection.tunnels[i]? = none
    · exact map_get?_perform_of_no_tunnel hp hno
    · -- The tunnel is attached again, so its new proposals were synthesized.
      obtain ⟨hid, hsome⟩ := Classical.not_imp.mp hno
      obtain ⟨t, ht⟩ := Option.ne_none_iff_exists'.mp hsome
      obtain ⟨e, -⟩ := PartKind.get?_synthesize hs ht
      rw [hagain t e.phase2 hid ht e.phase2_eq, hold,
        overwritten_eq_iff.mpr (hagree t e.phase2 hid ht e.phase2_eq)]

/-- A tunnel that is attached again without its second proposal and without its policy,
which still names both. -/
theorem surviving_policies_resolve_shortened :
    let wide : Tunnel :=
      { (default : Tunnel) with
        ipsecIntegrity := ["SHA1"], ipsecEncryption := ["AES128", "AES256"]
        ipsecGroups := ["14"] }
    let narrow : Tunnel := { wide with ipsecEncryption := ["AES128"], ipsecGroups := [] }
    let attempt (t : Tunnel) : Attempt :=
      ⟨{ (default : Connection) with id := "a", tunnels := [t] }, ⟨"outer", "inner", none, none⟩⟩
    let d := (ofHostname "gw").afterOperations
      [.ensureVrf "outer", .ensureVrf "inner", .attempt (attempt wide)]
    let k := attempt narrow
    let key := numberedName (Tunnel.idOf "a" 1) 2
    ∃ a policy, k.reply d = .ok true ∧ k.synthesis = .ok a ∧
      d.phase2Policies.get? key = some policy ∧ a.phase2Policies.get? key = none ∧
      policy.proposals = ["a-1-0", "a-1-1"] ∧
      policy.proposals.map (k.perform d).phase2Proposals.get? =
        policy.proposals.map d.phase2Proposals.get? := by
  intro wide narrow attempt d k key
  have hv : d.HasVrfs k.placement := by constructor <;> decide +kernel
  have hr : k.reply d = .ok true := Attempt.reply_eq_true_iff.mpr ⟨hv, _, rfl⟩
  have hpolicy : d.phase2Policies.get? key = some ⟨some .group14, ["a-1-0", "a-1-1"]⟩ := by
    decide +kernel
  obtain ⟨a, hs, hkey⟩ : ∃ a, k.synthesis = .ok a ∧ a.phase2Policies.get? key = none :=
    ⟨_, rfl, by decide +kernel⟩
  refine ⟨a, _, hr, hs, hpolicy, hkey, rfl, ?_⟩
  obtain ⟨-, id, i, old, hp, hold, -, hsame⟩ :=
    surviving_policies_resolve "gw" _ k a key _ hr hs hpolicy hkey
  apply hsame.mpr
  intro t new _ ht hnew
  obtain ⟨-, rfl⟩ := hp.tunnel_eq
  obtain rfl : narrow = t := Option.some.inj ht
  obtain rfl := Except.ok.inj hnew
  let q : Phase2Proposal := ⟨.hmacSha1, .aes128Cbc, .singleton .esp, some .tunnel⟩
  have hresolve : ["a-1-0", "a-1-1"].map d.phase2Proposals.get? =
      [q, { q with encryptionAlgorithm := .aes256Cbc }].map some := by decide +kernel
  obtain rfl := (List.map_inj_right fun _ _ => Option.some.inj).mp (hold.symm.trans hresolve)
  rfl

/-- Not every phase 2 policy that an attempt does not replace resolves to what it did: here
the tunnel is attached again with another proposal and without its policy. -/
theorem surviving_policies_change :
    let t : Tunnel :=
      { (default : Tunnel) with
        ipsecIntegrity := ["SHA1"], ipsecEncryption := ["AES128"], ipsecGroups := ["14"] }
    let u : Tunnel := { t with ipsecEncryption := ["AES256"], ipsecGroups := [] }
    let attempt (t : Tunnel) : Attempt :=
      ⟨{ (default : Connection) with id := "a", tunnels := [t] },
        ⟨Placement.defaultUnderlayVrf, "inner", none, none⟩⟩
    let d := (ofHostname "gw").afterOperations
      [.initInfrastructure, .ensureVrf "inner", .attempt (attempt t)]
    let k := attempt u
    let final := k.perform d
    ∃ a policy, k.reply d = .ok true ∧ k.synthesis = .ok a ∧
      d.phase2Policies.get? "a-1-1" = some policy ∧ a.phase2Policies.get? "a-1-1" = none ∧
      policy.proposals.map d.phase2Proposals.get? =
        [some ⟨.hmacSha1, .aes128Cbc, .singleton .esp, some .tunnel⟩] ∧
      policy.proposals.map final.phase2Proposals.get? =
        [some ⟨.hmacSha1, .aes256Cbc, .singleton .esp, some .tunnel⟩] := by
  intro t u attempt d k final
  have hv : d.HasVrfs k.placement := by constructor <;> decide +kernel
  have hr : k.reply d = .ok true := Attempt.reply_eq_true_iff.mpr ⟨hv, _, rfl⟩
  have hpolicy : d.phase2Policies.get? "a-1-1" = some ⟨some .group14, ["a-1-0"]⟩ := by
    decide +kernel
  refine ⟨_, _, hr, rfl, hpolicy, ?_, ?_, ?_⟩
  · decide +kernel
  · decide +kernel
  · decide +kernel

end Configuration

end SiteVpn
