import SiteVpn.Proofs.Attempt

/-!
# Parts belong to tunnels

Every name of a part belongs to one tunnel of one connection. Laying parts over one
another therefore never puts the part of one tunnel in the place of another's: what a
connection has put on a device stays there until a connection with its name is
attached again.

## Implementation notes

Kinds of parts differ in their map and in how they name parts. The structure below
holds what of this matters, so that what is said of devices is proved for all kinds
at once.
-/

namespace SiteVpn

/-- A kind of parts: where they are kept, and which of their names belong to a tunnel. -/
structure PartKind (α : Type) where
  map : NamedParts → NameMap α
  map_empty : map .empty = ∅
  map_extend : ∀ m n, map (m.extend n) = (map m).extend (map n)
  /-- Whether the tunnel of an id owns a name. -/
  Owns : String → String → Prop
  owner_unique : ∀ {x y name}, Owns x name → Owns y name → x = y
  owns_of_get? : ∀ {t : Tunnel} {tunnelId : String} (e : t.Expansion tunnelId)
    (c : Connection) (p : Placement) {name : String} {v : α},
    (map (e.parts c p).named).get? name = some v → Owns tunnelId name

namespace PartKind

/-- Phase 1 proposals are named after the tunnel and known tokens. -/
def phase1Proposals : PartKind Phase1Proposal where
  map := NamedParts.phase1Proposals
  map_empty := rfl
  map_extend _ _ := rfl
  Owns tunnelId name := ∃ c : Tunnel.Phase1Tokens, c.Known ∧ name = Tunnel.phase1Name tunnelId c
  owner_unique := by
    rintro x y name ⟨c, hc, rfl⟩ ⟨c', hc', h⟩
    exact (Tunnel.phase1Name_inj hc hc' h).1
  owns_of_get? := by
    intro t tunnelId e c p name q h
    obtain ⟨q', hq', heq⟩ := List.mem_map.mp (NameMap.mem_of_get?_ofList h)
    obtain ⟨rfl, rfl⟩ := Prod.mk.inj heq
    obtain ⟨tokens, hk, hn, -⟩ := Tunnel.exists_tokens_of_mem e.phase1_eq hq'
    exact ⟨tokens, hk, hn⟩

/-- A tunnel has one interface on each side. -/
def interfaces : PartKind Interface where
  map := NamedParts.interfaces
  map_empty := rfl
  map_extend _ _ := rfl
  Owns tunnelId name := name = Tunnel.externalName tunnelId ∨ name = Tunnel.internalName tunnelId
  owner_unique := by
    rintro x y name (rfl | rfl) (h | h)
    · exact Tunnel.externalName_inj h
    · exact absurd h (Tunnel.externalName_ne_internalName x y)
    · exact absurd h.symm (Tunnel.externalName_ne_internalName y x)
    · exact Tunnel.internalName_inj h
  owns_of_get? := by
    intro t tunnelId e c p name interface h
    have hmem := NameMap.mem_of_get?_ofList h
    simp only [List.mem_cons, Prod.mk.injEq, List.not_mem_nil, or_false] at hmem
    exact hmem.imp And.left And.left

/-- Phase 1 keys have the names of the tunnels. -/
def phase1Keys : PartKind Phase1Key where
  map := NamedParts.phase1Keys
  map_empty := rfl
  map_extend _ _ := rfl
  Owns tunnelId name := name = tunnelId
  owner_unique := by
    rintro x y name rfl rfl
    rfl
  owns_of_get? := by
    intro t tunnelId e c p name key h
    exact NameMap.eq_of_get?_singleton h

/-- Phase 1 policies have the names of the tunnels. -/
def phase1Policies : PartKind Phase1Policy where
  map := NamedParts.phase1Policies
  map_empty := rfl
  map_extend _ _ := rfl
  Owns tunnelId name := name = tunnelId
  owner_unique := by
    rintro x y name rfl rfl
    rfl
  owns_of_get? := by
    intro t tunnelId e c p name policy h
    exact NameMap.eq_of_get?_singleton h

/-- Phase 2 proposals are numbered. -/
def phase2Proposals : PartKind Phase2Proposal where
  map := NamedParts.phase2Proposals
  map_empty := rfl
  map_extend _ _ := rfl
  Owns tunnelId name := ∃ i, name = numberedName tunnelId i
  owner_unique := by
    rintro x y name ⟨i, rfl⟩ ⟨j, h⟩
    exact (numberedName_inj h).1
  owns_of_get? := by
    intro t tunnelId e c p name q h
    obtain ⟨i, -, hn⟩ := mem_zip_numberedNames.mp (NameMap.mem_of_get?_ofList h)
    exact ⟨_, hn⟩

/-- Phase 2 policies are numbered after the proposals. -/
def phase2Policies : PartKind Phase2Policy where
  map := NamedParts.phase2Policies
  map_empty := rfl
  map_extend _ _ := rfl
  Owns tunnelId name := ∃ i, name = numberedName tunnelId i
  owner_unique := by
    rintro x y name ⟨i, rfl⟩ ⟨j, h⟩
    exact (numberedName_inj h).1
  owns_of_get? := by
    intro t tunnelId e c p name policy h
    obtain ⟨i, -, hn⟩ := mem_zip_numberedNames.mp (NameMap.mem_of_get?_ofList h)
    exact ⟨_, hn⟩

/-- Peer configs are named after the phase 2 policies. -/
def peerConfigs : PartKind PeerConfig where
  map := NamedParts.peerConfigs
  map_empty := rfl
  map_extend _ _ := rfl
  Owns tunnelId name := ∃ i, name = Tunnel.peerName (numberedName tunnelId i)
  owner_unique := by
    rintro x y name ⟨i, rfl⟩ ⟨j, h⟩
    exact (numberedName_inj (Tunnel.peerName_inj h)).1
  owns_of_get? := by
    intro t tunnelId e c p name peer h
    obtain ⟨policy, hpolicy, heq⟩ := List.mem_map.mp (NameMap.mem_of_get?_ofList h)
    obtain ⟨rfl, -⟩ := Prod.mk.inj heq
    obtain ⟨i, -, rfl⟩ := List.mem_map.mp hpolicy
    exact ⟨i, rfl⟩

variable {α : Type} (S : PartKind α) {c : Connection} {p : Placement} {name : String}

theorem get?_eq_none_of_owner {t : Tunnel} {x tunnelId : String} (e : t.Expansion tunnelId)
    (hx : S.Owns x name) (hne : x ≠ tunnelId) :
    (S.map (e.parts c p).named).get? name = none := by
  cases h : (S.map (e.parts c p).named).get? name with
  | none => rfl
  | some v => exact absurd (S.owner_unique hx (S.owns_of_get? e c p h)) hne

/-- Every part of a connection is of one of its tunnels. -/
theorem exists_owner_of_get? {n : Nat} {ts : List Tunnel} {a : Artifacts} {v : α}
    (h : (c.synthesizeFrom p n ts).value = .ok a) (hv : (S.map a.named).get? name = some v) :
    ∃ i t, ts[i]? = some t ∧ S.Owns (Tunnel.idOf c.id (n + i)) name := by
  induction ts generalizing n a with
  | nil =>
      obtain rfl : Artifacts.empty = a := Except.ok.inj h
      rw [Artifacts.named_empty, S.map_empty, NameMap.get?_emptyCollection] at hv
      cases hv
  | cons t ts ih =>
      obtain ⟨e, rest, hr, rfl⟩ := Connection.synthesizeFrom_cons_eq_ok h
      rw [Artifacts.named_append, S.map_extend, NameMap.get?_extend, Option.or_eq_some_iff] at hv
      rcases hv with hv | ⟨-, hv⟩
      · obtain ⟨i, u, hu, hS⟩ := ih hr hv
        have hn : n + (i + 1) = n + 1 + i := by omega
        exact ⟨i + 1, u, hu, hn ▸ hS⟩
      · exact ⟨0, t, rfl, S.owns_of_get? e c p hv⟩

/-- Parts do not have the names of tunnels that they are not of. -/
theorem get?_synthesizeFrom_eq_none {n : Nat} {ts : List Tunnel} {a : Artifacts}
    (h : (c.synthesizeFrom p n ts).value = .ok a) {x : String} (hx : S.Owns x name)
    (hne : ∀ m, n ≤ m → x ≠ Tunnel.idOf c.id m) : (S.map a.named).get? name = none := by
  cases hv : (S.map a.named).get? name with
  | none => rfl
  | some v =>
      obtain ⟨i, t, -, hS⟩ := S.exists_owner_of_get? h hv
      exact absurd (S.owner_unique hx hS) (hne _ (Nat.le_add_right n i))

/-- Among the parts of a connection, those of a tunnel are the parts that its expansion
gives. -/
theorem get?_synthesizeFrom {n i : Nat} {ts : List Tunnel} {a : Artifacts}
    (h : (c.synthesizeFrom p n ts).value = .ok a) {t : Tunnel} (ht : ts[i]? = some t) :
    ∃ e : t.Expansion (Tunnel.idOf c.id (n + i)),
      ∀ {α : Type} (S : PartKind α) {name : String}, S.Owns (Tunnel.idOf c.id (n + i)) name →
        (S.map a.named).get? name = (S.map (e.parts c p).named).get? name := by
  induction ts generalizing n a i with
  | nil => simp at ht
  | cons t' ts ih =>
      obtain ⟨e, rest, hr, rfl⟩ := Connection.synthesizeFrom_cons_eq_ok h
      cases i with
      | zero =>
          obtain rfl : t' = t := by simpa using ht
          refine ⟨e, fun S name hS => ?_⟩
          have hrest : (S.map rest.named).get? name = none := by
            apply S.get?_synthesizeFrom_eq_none hr hS
            intro m hm heq
            have hn := (numberedName_inj heq).2
            omega
          rw [Artifacts.named_append, S.map_extend, NameMap.get?_extend, hrest, Option.none_or]
      | succ j =>
          have hn : n + (j + 1) = n + 1 + j := by omega
          rw [hn]
          obtain ⟨e', he'⟩ := ih hr (by simpa using ht)
          refine ⟨e', fun S name hS => ?_⟩
          have hfirst : (S.map (e.parts c p).named).get? name = none := by
            apply S.get?_eq_none_of_owner e hS
            intro heq
            have hm := (numberedName_inj heq).2
            omega
          rw [Artifacts.named_append, S.map_extend, NameMap.get?_extend, hfirst, Option.or_none,
            he' S hS]

/-- Of the parts of a connection, those with the names of a tunnel are the parts that its
expansion gives. -/
theorem get?_synthesize {a : Artifacts} (h : (c.synthesize p).value = .ok a) {i : Nat}
    {t : Tunnel} (ht : c.tunnels[i]? = some t) :
    ∃ e : t.Expansion (Tunnel.idOf c.id (i + 1)),
      ∀ {α : Type} (S : PartKind α) {name : String}, S.Owns (Tunnel.idOf c.id (i + 1)) name →
        (S.map a.named).get? name = (S.map (e.parts c p).named).get? name := by
  rw [Nat.add_comm i 1]
  exact get?_synthesizeFrom h ht

/-- An attempt leaves the parts of tunnels as they are that its connection does not have. -/
theorem get?_perform_of_no_tunnel {k : Attempt} {d : Configuration} {tunnelId : String}
    (hno : ∀ i t, k.connection.tunnels[i]? = some t →
      Tunnel.idOf k.connection.id (i + 1) ≠ tunnelId)
    (hS : S.Owns tunnelId name) :
    (S.map (k.perform d).named).get? name = (S.map d.named).get? name := by
  by_cases hr : k.reply d = .ok true
  · obtain ⟨-, a, hs⟩ := Attempt.reply_eq_true_iff.mp hr
    have ha : (S.map a.named).get? name = none := by
      cases hv : (S.map a.named).get? name with
      | none => rfl
      | some v =>
          obtain ⟨i, t, ht, hS'⟩ := S.exists_owner_of_get? hs hv
          rw [Nat.add_comm 1 i] at hS'
          exact absurd (S.owner_unique hS' hS) (hno i t ht)
    rw [Attempt.named_perform hr hs, S.map_extend, NameMap.get?_extend, ha, Option.none_or]
  · rw [Attempt.perform_of_reply_ne hr]

/-- An attempt leaves the parts of other connections as they are. -/
theorem get?_perform_of_id_ne {k : Attempt} {d : Configuration} {id : String} {n : Nat}
    (hid : k.connection.id ≠ id) (hS : S.Owns (Tunnel.idOf id n) name) :
    (S.map (k.perform d).named).get? name = (S.map d.named).get? name := by
  apply S.get?_perform_of_no_tunnel _ hS
  intro i t _ heq
  exact hid (numberedName_inj heq).1

/-- So do attempts none of which attaches a connection of that name. -/
theorem get?_afterAttempts_of_id_ne {d : Configuration} {ks : List Attempt} {id : String}
    {n : Nat} (hid : ∀ k ∈ d.attached ks, k.connection.id ≠ id)
    (hS : S.Owns (Tunnel.idOf id n) name) :
    (S.map (d.afterAttempts ks).named).get? name = (S.map d.named).get? name := by
  induction ks generalizing d with
  | nil => rfl
  | cons k ks ih =>
      change (S.map ((k.perform d).afterAttempts ks).named).get? name = _
      by_cases hr : k.reply d = .ok true
      · rw [Configuration.attached_cons_of_reply hr] at hid
        rw [ih fun k' hk' => hid k' (List.mem_cons_of_mem k hk')]
        exact S.get?_perform_of_id_ne (hid k (List.mem_cons_self ..)) hS
      · rw [Configuration.attached_cons_of_reply_ne hr] at hid
        rw [Attempt.perform_of_reply_ne hr]
        exact ih hid

end PartKind

/-- What a connection has put on a device stays there until a connection of its name is
attached again: all parts of each of its tunnels are found under their names. -/
theorem Configuration.get?_afterAttempts_of_last {d : Configuration}
    {ks earlier later : List Attempt} {k : Attempt}
    (hk : d.attached ks = earlier ++ k :: later)
    (hlast : ∀ k' ∈ later, k'.connection.id ≠ k.connection.id)
    {i : Nat} {t : Tunnel} (ht : k.connection.tunnels[i]? = some t) :
    ∃ e : t.Expansion (Tunnel.idOf k.connection.id (i + 1)),
      ∀ {α : Type} (S : PartKind α) {name : String} {v : α},
        (S.map (e.parts k.connection k.placement).named).get? name = some v →
          (S.map (d.afterAttempts ks).named).get? name = some v := by
  obtain ⟨d', rest, hr, hrest, hfinal⟩ := exists_split_of_attached hk
  obtain ⟨a, hs, hp⟩ := Attempt.perform_of_reply hr
  rw [Nat.add_comm i 1]
  obtain ⟨e, he⟩ := PartKind.get?_synthesizeFrom hs ht
  refine ⟨e, fun S name v hv => ?_⟩
  have hS := S.owns_of_get? e k.connection k.placement hv
  rw [hfinal, S.get?_afterAttempts_of_id_ne (hrest ▸ hlast) hS, hp, named_merge, S.map_extend,
    NameMap.get?_extend, he S hS, hv]
  rfl

end SiteVpn
