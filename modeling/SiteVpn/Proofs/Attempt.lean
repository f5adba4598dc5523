import SiteVpn.Proofs.Merging
import SiteVpn.Proofs.Synthesis

/-!
# Attempts to attach connections

An attempt ends in one of three ways, and in two of them the device is as it was:
where a VRF is missing, which is warned of once, and where a token is unknown, which
is the answer. Otherwise the device gets all parts of the connection, and nothing is
warned of. Of attempts made one after another, only those that attached their
connection have changed the device.
-/

namespace SiteVpn

/-- An attempt to attach a connection to a device. -/
structure Attempt where
  connection : Connection
  placement : Placement

/-- Whether the device has the VRFs that connections are put into. -/
def Configuration.HasVrfs (d : Configuration) (p : Placement) : Prop :=
  d.vrfs.contains p.underlayVrf ∧ d.vrfs.contains p.tunnelVrf

theorem Configuration.missingVrf?_eq_none_iff {d : Configuration} {p : Placement} :
    d.missingVrf? p = none ↔ d.HasVrfs p := by
  unfold missingVrf? HasVrfs
  cases d.vrfs.contains p.underlayVrf <;> cases d.vrfs.contains p.tunnelVrf <;> simp

theorem Configuration.hasVrfs_iff {d : Configuration} {p : Placement} :
    d.HasVrfs p ↔ ¬ (d.vrfs.get? p.underlayVrf = none ∨ d.vrfs.get? p.tunnelVrf = none) := by
  simp only [HasVrfs, NameMap.contains, Option.isSome_iff_ne_none, not_or, ne_eq]

/-- What a device lacks depends on its name and on the names of its VRFs. -/
theorem Configuration.missingVrf?_congr {d d' : Configuration}
    (hname : d.hostname = d'.hostname)
    (hvrfs : ∀ name, d.vrfs.contains name = d'.vrfs.contains name) (p : Placement) :
    d.missingVrf? p = d'.missingVrf? p := by
  rw [missingVrf?, missingVrf?, hname, hvrfs, hvrfs]

theorem Connection.attach_of_missing {c : Connection} {p : Placement} {d : Configuration}
    {w : Warning} (h : d.missingVrf? p = some w) :
    c.attach p d = ⟨.ok none, [.warned w]⟩ := by
  rw [attach, h]

theorem Connection.attach_of_hasVrfs {c : Connection} {p : Placement} {d : Configuration}
    (h : d.HasVrfs p) :
    c.attach p d =
      ⟨(c.synthesize p).value.map fun a => some (d.merge p.tunnelVrf a),
        (c.synthesize p).events⟩ := by
  rw [attach, Configuration.missingVrf?_eq_none_iff.mpr h]

namespace Attempt

/-- The parts that the attempt is to merge, or the unknown token. -/
def synthesis (k : Attempt) : Except UnknownToken Artifacts :=
  (k.connection.synthesize k.placement).value

/-- The answer: whether the connection was attached, or its unknown token. -/
def reply (k : Attempt) (d : Configuration) : Except UnknownToken Bool :=
  (k.connection.attach k.placement d).value.map Option.isSome

/-- The device after the attempt. -/
def perform (k : Attempt) (d : Configuration) : Configuration :=
  match (k.connection.attach k.placement d).value with
  | .ok (some attached) => attached
  | _ => d

/-- What happens during the attempt. -/
def events (k : Attempt) (d : Configuration) : List Event :=
  (k.connection.attach k.placement d).events

/-- The three ways in which an attempt ends. -/
theorem ending (k : Attempt) (d : Configuration) :
    (∃ w, d.missingVrf? k.placement = some w ∧
      k.reply d = .ok false ∧ k.perform d = d ∧ warningsOf (k.events d) = [w]) ∨
    (∃ e, d.HasVrfs k.placement ∧ k.synthesis = .error e ∧
      k.reply d = .error e ∧ k.perform d = d ∧ warningsOf (k.events d) = []) ∨
    (∃ a, d.HasVrfs k.placement ∧ k.synthesis = .ok a ∧
      k.reply d = .ok true ∧ k.perform d = d.merge k.placement.tunnelVrf a ∧
      warningsOf (k.events d) = []) := by
  cases hm : d.missingVrf? k.placement with
  | some w =>
      have ha := Connection.attach_of_missing (c := k.connection) hm
      have hr : k.reply d = .ok false := by rw [reply, ha]; rfl
      have hp : k.perform d = d := by rw [perform, ha]
      have hw : warningsOf (k.events d) = [w] := by rw [events, ha]; rfl
      exact .inl ⟨w, rfl, hr, hp, hw⟩
  | none =>
      right
      have hv := Configuration.missingVrf?_eq_none_iff.mp hm
      have ha := Connection.attach_of_hasVrfs (c := k.connection) hv
      have hw : warningsOf (k.events d) = [] := by
        rw [events, ha]
        exact Connection.warningsOf_synthesize k.connection k.placement
      cases hs : k.synthesis with
      | error e =>
          unfold synthesis at hs
          have hr : k.reply d = .error e := by rw [reply, ha, hs]; rfl
          have hp : k.perform d = d := by rw [perform, ha, hs]; rfl
          exact .inl ⟨e, hv, rfl, hr, hp, hw⟩
      | ok a =>
          unfold synthesis at hs
          have hr : k.reply d = .ok true := by rw [reply, ha, hs]; rfl
          have hp : k.perform d = d.merge k.placement.tunnelVrf a := by rw [perform, ha, hs]; rfl
          exact .inr ⟨a, hv, rfl, hr, hp, hw⟩

theorem reply_eq_false_iff {k : Attempt} {d : Configuration} :
    k.reply d = .ok false ↔ ¬ d.HasVrfs k.placement := by
  rcases k.ending d with ⟨w, hm, hr, -⟩ | ⟨e, hv, -, hr, -⟩ | ⟨a, hv, -, hr, -⟩
  · rw [← Configuration.missingVrf?_eq_none_iff]
    simp [hr, hm]
  · simp [hr, hv]
  · simp [hr, hv]

theorem reply_eq_error_iff {k : Attempt} {d : Configuration} {u : UnknownToken} :
    k.reply d = .error u ↔ d.HasVrfs k.placement ∧ k.synthesis = .error u := by
  rcases k.ending d with ⟨w, -, hr, -⟩ | ⟨e, hv, hs, hr, -⟩ | ⟨a, hv, hs, hr, -⟩
  · have hv := reply_eq_false_iff.mp hr
    simp [hr, hv]
  · simp [hr, hv, hs]
  · simp [hr, hs]

/-- A connection is attached where the VRFs are and its tokens are known. -/
theorem reply_eq_true_iff {k : Attempt} {d : Configuration} :
    k.reply d = .ok true ↔ d.HasVrfs k.placement ∧ ∃ a, k.synthesis = .ok a := by
  rcases k.ending d with ⟨w, -, hr, -⟩ | ⟨e, -, hs, hr, -⟩ | ⟨a, hv, hs, hr, -⟩
  · have hv := reply_eq_false_iff.mp hr
    simp [hr, hv]
  · simp [hr, hs]
  · simp [hr, hv, hs]

theorem perform_of_reply {k : Attempt} {d : Configuration} (h : k.reply d = .ok true) :
    ∃ a, k.synthesis = .ok a ∧ k.perform d = d.merge k.placement.tunnelVrf a := by
  rcases k.ending d with ⟨w, -, hr, -⟩ | ⟨e, -, -, hr, -⟩ | ⟨a, -, hs, -, hp, -⟩
  · rw [hr] at h
    cases h
  · rw [hr] at h
    cases h
  · exact ⟨a, hs, hp⟩

theorem named_perform {k : Attempt} {d : Configuration} {a : Artifacts}
    (h : k.reply d = .ok true) (ha : k.synthesis = .ok a) :
    (k.perform d).named = d.named.extend a.named := by
  obtain ⟨b, hb, hp⟩ := perform_of_reply h
  obtain rfl := Except.ok.inj (ha.symm.trans hb)
  rw [hp, Configuration.named_merge]

theorem perform_of_reply_ne {k : Attempt} {d : Configuration} (h : k.reply d ≠ .ok true) :
    k.perform d = d := by
  rcases k.ending d with ⟨w, -, -, hp, -⟩ | ⟨e, -, -, -, hp, -⟩ | ⟨a, -, -, hr, -⟩
  · exact hp
  · exact hp
  · exact absurd hr h

/-- An attempt warns once where a VRF is missing. -/
theorem warnings_of_reply {k : Attempt} {d : Configuration} (h : k.reply d = .ok false) :
    ∃ w, warningsOf (k.events d) = [w] := by
  rcases k.ending d with ⟨w, -, -, -, hw⟩ | ⟨e, -, -, hr, -⟩ | ⟨a, -, -, hr, -⟩
  · exact ⟨w, hw⟩
  · rw [hr] at h
    cases h
  · rw [hr] at h
    cases h

/-- Otherwise it does not warn. -/
theorem warnings_of_reply_ne {k : Attempt} {d : Configuration} (h : k.reply d ≠ .ok false) :
    warningsOf (k.events d) = [] := by
  rcases k.ending d with ⟨w, -, hr, -⟩ | ⟨e, -, -, -, -, hw⟩ | ⟨a, -, -, -, -, hw⟩
  · exact absurd hr h
  · exact hw
  · exact hw

theorem hostname_perform (k : Attempt) (d : Configuration) :
    (k.perform d).hostname = d.hostname := by
  by_cases h : k.reply d = .ok true
  · obtain ⟨a, -, hp⟩ := perform_of_reply h
    rw [hp, Configuration.hostname_merge]
  · rw [perform_of_reply_ne h]

/-- No attempt adds or removes VRFs. -/
theorem contains_perform (k : Attempt) (d : Configuration) (name : String) :
    (k.perform d).vrfs.contains name = d.vrfs.contains name := by
  by_cases h : k.reply d = .ok true
  · obtain ⟨a, -, hp⟩ := perform_of_reply h
    have hv : d.vrfs.contains k.placement.tunnelVrf := (reply_eq_true_iff.mp h).1.2
    rw [hp, Configuration.contains_merge hv]
  · rw [perform_of_reply_ne h]

theorem missingVrf?_perform (k : Attempt) (d : Configuration) (p : Placement) :
    (k.perform d).missingVrf? p = d.missingVrf? p :=
  Configuration.missingVrf?_congr (k.hostname_perform d) (k.contains_perform d) p

/-- The answer does not depend on the attempts made before. -/
@[simp] theorem reply_perform (k k' : Attempt) (d : Configuration) :
    k.reply (k'.perform d) = k.reply d := by
  unfold reply Connection.attach
  rw [missingVrf?_perform]
  cases d.missingVrf? k.placement with
  | some w => rfl
  | none =>
      dsimp only
      cases (k.connection.synthesize k.placement).value <;> rfl

end Attempt

namespace Configuration

/-- The device after attempts made one after another. -/
def afterAttempts (d : Configuration) (ks : List Attempt) : Configuration :=
  ks.foldl (fun d k => k.perform d) d

/-- The attempts among some made one after another that attach their connection. -/
def attached (d : Configuration) : List Attempt → List Attempt
  | [] => []
  | k :: ks =>
    match k.reply d with
    | .ok true => k :: attached (k.perform d) ks
    | _ => attached (k.perform d) ks

theorem attached_cons_of_reply {d : Configuration} {k : Attempt} (h : k.reply d = .ok true)
    (ks : List Attempt) : d.attached (k :: ks) = k :: (k.perform d).attached ks := by
  simp [attached, h]

theorem attached_cons_of_reply_ne {d : Configuration} {k : Attempt} (h : k.reply d ≠ .ok true)
    (ks : List Attempt) : d.attached (k :: ks) = d.attached ks := by
  rw [attached, Attempt.perform_of_reply_ne h]
  split
  · contradiction
  · rfl

/-- Attempts that would all succeed on the device as it is do so one after another. -/
theorem attached_eq_self {d : Configuration} {ks : List Attempt}
    (h : ∀ k ∈ ks, k.reply d = .ok true) : d.attached ks = ks := by
  induction ks generalizing d with
  | nil => rfl
  | cons k ks ih =>
      obtain ⟨hk, hks⟩ := List.forall_mem_cons.mp h
      have hrest : ∀ k' ∈ ks, k'.reply (k.perform d) = .ok true := by
        intro k' hk'
        rw [Attempt.reply_perform, hks k' hk']
      rw [attached_cons_of_reply hk, ih hrest]

/-- An attempt that attached its connection was made at some point between others. -/
theorem exists_split_of_attached {d : Configuration} {ks earlier later : List Attempt}
    {k : Attempt} (h : d.attached ks = earlier ++ k :: later) :
    ∃ (d' : Configuration) (rest : List Attempt), k.reply d' = .ok true ∧
      (k.perform d').attached rest = later ∧
      d.afterAttempts ks = (k.perform d').afterAttempts rest := by
  induction ks generalizing d earlier with
  | nil => simp [attached] at h
  | cons k' ks ih =>
      by_cases hr : k'.reply d = .ok true
      · rw [attached_cons_of_reply hr] at h
        cases earlier with
        | nil =>
            obtain ⟨rfl, hl⟩ := List.cons.inj h
            exact ⟨d, ks, hr, hl, rfl⟩
        | cons e es => exact ih (List.cons.inj h).2
      · rw [attached_cons_of_reply_ne hr] at h
        obtain ⟨d', rest, h₁, h₂, h₃⟩ := ih h
        refine ⟨d', rest, h₁, h₂, ?_⟩
        rw [← h₃]
        change (k'.perform d).afterAttempts ks = _
        rw [Attempt.perform_of_reply_ne hr]

end Configuration

/-- A device and what has happened on it so far. -/
structure Session where
  device : Configuration
  events : List Event

namespace Session

/-- The warnings given so far. -/
def warnings (s : Session) : List Warning := warningsOf s.events

/-- The session after an attempt. -/
def attempt (s : Session) (k : Attempt) : Session :=
  ⟨k.perform s.device, s.events ++ k.events s.device⟩

theorem warnings_attempt (s : Session) (k : Attempt) :
    (s.attempt k).warnings = s.warnings ++ warningsOf (k.events s.device) := by
  simp [warnings, attempt, warningsOf, List.filterMap_append]

/-- Attaching a connection is all or nothing. Where a VRF is missing, the device stays as
it is and one warning is given. Where a token is unknown, in whichever tunnel, the device
stays as it is and the token is the answer. Otherwise all parts are merged. -/
theorem attempt_all_or_nothing (s : Session) (k : Attempt) :
    (k.reply s.device = .ok false ↔
      s.device.vrfs.get? k.placement.underlayVrf = none ∨
        s.device.vrfs.get? k.placement.tunnelVrf = none) ∧
    (k.reply s.device = .ok false →
      (s.attempt k).device = s.device ∧ ∃ w, (s.attempt k).warnings = s.warnings ++ [w]) ∧
    (∀ e, k.reply s.device = .error e ↔
      s.device.HasVrfs k.placement ∧ k.synthesis = .error e) ∧
    (∀ e, k.reply s.device = .error e →
      (s.attempt k).device = s.device ∧ (s.attempt k).warnings = s.warnings) ∧
    (∀ a, s.device.HasVrfs k.placement → k.synthesis = .ok a →
      k.reply s.device = .ok true ∧
        (s.attempt k).device = s.device.merge k.placement.tunnelVrf a ∧
        (s.attempt k).warnings = s.warnings) := by
  rw [warnings_attempt]
  refine ⟨?_, ?_, ?_, ?_, ?_⟩
  · rw [Attempt.reply_eq_false_iff, Configuration.hasVrfs_iff, Classical.not_not]
  · intro h
    obtain ⟨w, hw⟩ := Attempt.warnings_of_reply h
    exact ⟨Attempt.perform_of_reply_ne (by simp [h]), w, by rw [hw]⟩
  · intro e
    exact Attempt.reply_eq_error_iff
  · intro e h
    have hw := Attempt.warnings_of_reply_ne (k := k) (d := s.device) (by simp [h])
    exact ⟨Attempt.perform_of_reply_ne (by simp [h]), by rw [hw, List.append_nil]⟩
  · intro a hv hs
    have hr := Attempt.reply_eq_true_iff.mpr ⟨hv, a, hs⟩
    have hw := Attempt.warnings_of_reply_ne (k := k) (d := s.device) (by simp [hr])
    obtain ⟨a', hs', hp⟩ := Attempt.perform_of_reply hr
    obtain rfl : a = a' := Except.ok.inj (hs.symm.trans hs')
    exact ⟨hr, hp, by rw [hw, List.append_nil]⟩

end Session

end SiteVpn
