import Mathlib.Data.List.Forall2
import SiteVpn.Gateway.Report
import SiteVpn.Proofs.KeyErasure

/-!
# Records of a run do not disturb one another

What becomes of a record depends on the gateway and the record only, since no attempt
adds or removes VRFs and since neither the salt nor earlier connections decide whether
tokens are known. The final device is the gateway's with the parts of the applied
connections merged in their order. So records that are not applied may be deleted.
-/

namespace SiteVpn

/-- What becomes of a record that may be a connection, on a device. -/
def Configuration.verdict (d : Configuration) (p : Placement) :
    Except ConnectionError Connection → Outcome
  | .error e => .failed e
  | .ok c =>
    match (Attempt.mk c p).reply d with
    | .ok true => .applied
    | .ok false => .skipped
    | .error e => .failed (.unknownToken e)

namespace Configuration

variable {d : Configuration} {p : Placement}

/-- A connection is applied where it is attached. -/
theorem verdict_eq_applied_iff {c : Connection} :
    d.verdict p (.ok c) = .applied ↔ (Attempt.mk c p).reply d = .ok true := by
  unfold verdict
  dsimp only
  cases (Attempt.mk c p).reply d with
  | error e => simp
  | ok attached => cases attached <;> simp

/-- What becomes of a record is the same after an attempt. -/
theorem verdict_perform (k : Attempt) (slot : Except ConnectionError Connection) :
    (k.perform d).verdict p slot = d.verdict p slot := by
  cases slot with
  | error e => rfl
  | ok c => rw [verdict, verdict, Attempt.reply_perform]

/-- What becomes of a record does not depend on keys. -/
theorem verdict_map_withoutKeys (slot : Except ConnectionError Connection) :
    d.verdict p (slot.map Connection.withoutKeys) = d.verdict p slot := by
  cases slot with
  | error e => rfl
  | ok c =>
      change d.verdict p (.ok c.withoutKeys) = _
      rw [verdict, verdict, Attempt.reply_withoutKeys]

end Configuration

namespace Report

variable {r : Report} {p : Placement}

theorem configuration_attach (c : Connection) :
    (r.attach p c).configuration = (Attempt.mk c p).perform r.configuration := by
  unfold attach Attempt.perform
  dsimp only
  cases (c.attach p r.configuration).value with
  | error e => rfl
  | ok attached => cases attached <;> rfl

theorem outcomes_attach (c : Connection) :
    (r.attach p c).outcomes = r.outcomes ++ [(c.id, r.configuration.verdict p (.ok c))] := by
  unfold attach Configuration.verdict Attempt.reply
  dsimp only
  cases (c.attach p r.configuration).value with
  | error e => rfl
  | ok attached => cases attached <;> rfl

/-- Adding a record gives it its own outcome. -/
theorem map_snd_outcomes_add (index : Nat) (slot : Except ConnectionError Connection) :
    (r.add p index slot).outcomes.map (·.2) =
      r.outcomes.map (·.2) ++ [r.configuration.verdict p slot] := by
  cases slot with
  | error e => simp [add, refuse, Configuration.verdict]
  | ok c => simp [add, outcomes_attach]

/-- Adding a record changes the device where the record is applied, and only by its parts. -/
theorem configuration_add (index : Nat) (slot : Except ConnectionError Connection) :
    (∃ c a, slot = .ok c ∧ r.configuration.verdict p slot = .applied ∧
      (c.synthesize p).value = .ok a ∧
      (r.add p index slot).configuration = r.configuration.merge p.tunnelVrf a) ∨
    (r.configuration.verdict p slot ≠ .applied ∧
      (r.add p index slot).configuration = r.configuration) := by
  cases slot with
  | error e => exact .inr ⟨nofun, rfl⟩
  | ok c =>
      have hadd := configuration_attach (r := r) (p := p) c
      by_cases h : (Attempt.mk c p).reply r.configuration = .ok true
      · obtain ⟨a, hs, hp⟩ := Attempt.perform_of_reply h
        left
        exact ⟨c, a, rfl, Configuration.verdict_eq_applied_iff.mpr h, hs, hadd.trans hp⟩
      · right
        constructor
        · intro hv
          exact h (Configuration.verdict_eq_applied_iff.mp hv)
        · exact hadd.trans (Attempt.perform_of_reply_ne h)

/-- What becomes of a record is the same after another. -/
theorem verdict_add (index : Nat) (slot : Except ConnectionError Connection) :
    (r.add p index slot).configuration.verdict p = r.configuration.verdict p := by
  cases slot with
  | error e => rfl
  | ok c =>
      funext slot'
      change (r.attach p c).configuration.verdict p slot' = _
      rw [configuration_attach, Configuration.verdict_perform]

/-- Every record has the outcome that it has on the device before any record. -/
theorem map_snd_outcomes_addFrom (index : Nat)
    (slots : List (Except ConnectionError Connection)) :
    (r.addFrom p index slots).outcomes.map (·.2) =
      r.outcomes.map (·.2) ++ slots.map (r.configuration.verdict p) := by
  induction slots generalizing r index with
  | nil => simp [addFrom]
  | cons slot slots ih =>
      rw [addFrom, ih, map_snd_outcomes_add, verdict_add, List.append_assoc]
      rfl

/-- The parts of the applied connections are merged in their order, and nothing else. -/
theorem exists_parts_of_addFrom (index : Nat)
    (slots : List (Except ConnectionError Connection)) :
    ∃ parts, List.Forall₂ (fun slot a => ∃ c, slot = .ok c ∧ (c.synthesize p).value = .ok a)
        (slots.filter fun slot => r.configuration.verdict p slot = .applied) parts ∧
      (r.addFrom p index slots).configuration =
        parts.foldl (fun d a => d.merge p.tunnelVrf a) r.configuration := by
  induction slots generalizing r index with
  | nil => exact ⟨[], .nil, rfl⟩
  | cons slot slots ih =>
      obtain ⟨parts, hparts, hfinal⟩ := ih (r := r.add p index slot) (index + 1)
      rw [verdict_add] at hparts
      rcases configuration_add (r := r) (p := p) index slot with
        ⟨c, a, hc, hv, hs, hadd⟩ | ⟨hv, hadd⟩
      · refine ⟨a :: parts, ?_, ?_⟩
        · rw [List.filter_cons_of_pos (by simpa using hv)]
          exact .cons ⟨c, hc, hs⟩ hparts
        · rw [addFrom, hfinal, hadd]
          rfl
      · refine ⟨parts, ?_, ?_⟩
        · rw [List.filter_cons_of_neg (by simpa using hv)]
          exact hparts
        · rw [addFrom, hfinal, hadd]

end Report

namespace ConnectionRecord

/-- Whether a text is a document that lists some values as its records. -/
def Lists (text : String) (entries : List Json) : Prop :=
  ∃ members, Json.readDocument text.toList = some (.object members) ∧
    members.lookup listingName = some (.array entries)

theorem ofText?_of_lists {text : String} {entries : List Json} (h : Lists text entries) :
    ofText? text = some (entries.map ofEntry) := by
  obtain ⟨members, hread, hlist⟩ := h
  simp [ofText?, hread, ofDocument?, hlist]

/-- A document has no records where its listing is no array. -/
theorem ofDocument?_eq_none_iff {document : Json} :
    ofDocument? document = none ↔
      ∃ members listing, document = .object members ∧
        members.lookup listingName = some listing ∧ ∀ entries, listing ≠ .array entries := by
  constructor
  · intro h
    unfold ofDocument? at h
    dsimp only at h
    split at h
    · next members =>
        split at h
        · cases h
        · next listing hnot hlookup => exact ⟨members, listing, rfl, hlookup, hnot⟩
        · cases h
    · cases h
  · rintro ⟨members, listing, rfl, hlookup, hnot⟩
    unfold ofDocument?
    dsimp only
    split
    · next entries hentries =>
        exact absurd (Option.some.inj (hlookup.symm.trans hentries)) (hnot entries)
    · rfl
    · next hnone =>
        rw [hlookup] at hnone
        cases hnone

/-- A text has no records where it is no document or its listing is no array. -/
theorem ofText?_eq_none_iff {text : String} :
    ofText? text = none ↔ Json.readDocument text.toList = none ∨
      ∃ members listing, Json.readDocument text.toList = some (.object members) ∧
        members.lookup listingName = some listing ∧ ∀ entries, listing ≠ .array entries := by
  unfold ofText?
  cases Json.readDocument text.toList with
  | none => simp
  | some document =>
      simp only [Option.bind_eq_bind, Option.bind_some, reduceCtorEq, false_or,
        Option.some.injEq]
      exact ofDocument?_eq_none_iff

end ConnectionRecord

/-- Deleting elements that a filter drops anyway changes nothing after the filter. -/
theorem filter_map_filter_zipIdx {α β : Type} {f : α → β} {P : β → Bool} {keep : Nat → Bool}
    {xs : List α} {n : Nat}
    (h : ∀ i x, xs[i]? = some x → keep (n + i) = false → P (f x) = false) :
    ((((xs.zipIdx n).filter fun e => keep e.2).map (·.1)).map f).filter P =
      (xs.map f).filter P := by
  induction xs generalizing n with
  | nil => rfl
  | cons x xs ih =>
      have hrest := ih (n := n + 1) fun i y hy hkeep =>
        h (i + 1) y (by simpa using hy) (by rwa [Nat.add_right_comm, Nat.add_assoc] at hkeep)
      rw [List.zipIdx_cons, List.map_cons]
      cases hk : keep n with
      | true => simp [hk, List.filter_cons, ← hrest]
      | false =>
          have hx : P (f x) = false := h 0 x rfl hk
          simp [hk, hx, ← hrest]

namespace Gateway

variable {g : Gateway}

/-- What becomes of a record on the gateway. Any salt will do. -/
def outcomeOf (g : Gateway) (record : Except Json ConnectionRecord) : Outcome :=
  g.configuration.verdict g.placement (Connection.ofSlot ⟨""⟩ record)

/-- Whether a record is a connection of some parts. -/
def HasParts (g : Gateway) (salt : Salt) (record : Except Json ConnectionRecord) (a : Artifacts) :
    Prop :=
  ∃ c, Connection.ofSlot salt record = .ok c ∧ (c.synthesize g.placement).value = .ok a

theorem verdict_ofSlot (salt : Salt) (record : Except Json ConnectionRecord) :
    g.configuration.verdict g.placement (Connection.ofSlot salt record) = g.outcomeOf record := by
  rw [outcomeOf, ← Configuration.verdict_map_withoutKeys,
    Connection.ofSlot_withoutKeys salt ⟨""⟩, Configuration.verdict_map_withoutKeys]

/-- A record has no other parts than its own. -/
theorem rightUnique_hasParts (salt : Salt) : Relator.RightUnique (g.HasParts salt) := by
  rintro record a b ⟨c, hc, ha⟩ ⟨c', hc', hb⟩
  obtain rfl := Except.ok.inj (hc.symm.trans hc')
  exact Except.ok.inj (ha.symm.trans hb)

variable {records : List (Except Json ConnectionRecord)}

theorem run_of_records {fallback : Salt} {text : String}
    (h : ConnectionRecord.ofText? text = some records) :
    g.run fallback text =
      some (g.runSlots (records.map (Connection.ofSlot (g.saltOr fallback)))) := by
  rw [run, Connection.ofText?, h]
  rfl

theorem map_snd_outcomes_runSlots (g : Gateway) (salt : Salt)
    (records : List (Except Json ConnectionRecord)) :
    (g.runSlots (records.map (Connection.ofSlot salt))).outcomes.map (·.2) =
      records.map g.outcomeOf := by
  rw [runSlots, Report.map_snd_outcomes_addFrom, List.map_map]
  apply List.map_congr_left
  intro record _
  exact verdict_ofSlot salt record

/-- The outcome at the position of a record is that of the record. -/
theorem exists_label_of_runSlots (salt : Salt) {i : Nat} {record : Except Json ConnectionRecord}
    (h : records[i]? = some record) :
    ∃ label, (g.runSlots (records.map (Connection.ofSlot salt))).outcomes[i]? =
      some (label, g.outcomeOf record) := by
  have houtcomes := congrArg (·[i]?) (g.map_snd_outcomes_runSlots salt records)
  simp only [List.getElem?_map, h] at houtcomes
  obtain ⟨⟨label, outcome⟩, hget, hsnd⟩ := Option.map_eq_some_iff.mp houtcomes
  obtain rfl : outcome = g.outcomeOf record := hsnd
  exact ⟨label, hget⟩

theorem exists_parts_of_runSlots (g : Gateway) (salt : Salt)
    (records : List (Except Json ConnectionRecord)) :
    ∃ parts, List.Forall₂ (g.HasParts salt)
        (records.filter fun record => g.outcomeOf record = .applied) parts ∧
      (g.runSlots (records.map (Connection.ofSlot salt))).configuration =
        parts.foldl (fun d a => d.merge g.tunnelVrf a) g.configuration := by
  obtain ⟨parts, hparts, hfinal⟩ := Report.exists_parts_of_addFrom
    (r := .start g.configuration) (p := g.placement) 0 (records.map (Connection.ofSlot salt))
  refine ⟨parts, ?_, hfinal⟩
  rw [List.filter_map, List.forall₂_map_left_iff] at hparts
  simp only [Function.comp_def, Report.start, verdict_ofSlot] at hparts
  exact hparts

/-- The final device is that of the applied records. -/
theorem configuration_runSlots_congr {salt : Salt} {records' : List (Except Json ConnectionRecord)}
    (h : (records.filter fun record => g.outcomeOf record = .applied) =
      records'.filter fun record => g.outcomeOf record = .applied) :
    (g.runSlots (records.map (Connection.ofSlot salt))).configuration =
      (g.runSlots (records'.map (Connection.ofSlot salt))).configuration := by
  obtain ⟨parts, hparts, hfinal⟩ := g.exists_parts_of_runSlots salt records
  obtain ⟨parts', hparts', hfinal'⟩ := g.exists_parts_of_runSlots salt records'
  rw [h] at hparts
  obtain rfl := (rightUnique_hasParts salt).forall₂ hparts hparts'
  rw [hfinal, hfinal']

/-- Records of a run do not disturb one another. Only a text that is no document, or whose
listing is no array, has no run. Otherwise each record has the outcome that the gateway
gives it, the device gets the parts of the applied records in their order and nothing
else, and deleting records that are not applied from a listing leaves the final device
as it is. -/
theorem run_isolates_records (g : Gateway) (fallback : Salt) (text : String) :
    (g.run fallback text = none ↔ Json.readDocument text.toList = none ∨
      ∃ members listing, Json.readDocument text.toList = some (.object members) ∧
        members.lookup ConnectionRecord.listingName = some listing ∧
        ∀ entries, listing ≠ .array entries) ∧
    (∀ records, ConnectionRecord.ofText? text = some records →
      ∃ report, g.run fallback text = some report ∧
        report.outcomes.map (·.2) = records.map g.outcomeOf ∧
        ∃ parts, List.Forall₂ (g.HasParts (g.saltOr fallback))
            (records.filter fun record => g.outcomeOf record = .applied) parts ∧
          report.configuration =
            parts.foldl (fun d a => d.merge g.tunnelVrf a) g.configuration) ∧
    ∀ entries, ConnectionRecord.Lists text entries →
      ∃ report, g.run fallback text = some report ∧
        ∀ (keep : Nat → Bool) (text' : String),
          (∀ i label, report.outcomes[i]? = some (label, .applied) → keep i) →
          ConnectionRecord.Lists text'
            ((entries.zipIdx.filter fun entry => keep entry.2).map (·.1)) →
          ∃ report', g.run fallback text' = some report' ∧
            report'.configuration = report.configuration := by
  refine ⟨?_, ?_, ?_⟩
  · rw [← ConnectionRecord.ofText?_eq_none_iff, run, Connection.ofText?]
    simp
  · intro records hrecords
    exact ⟨_, run_of_records hrecords, g.map_snd_outcomes_runSlots _ records,
      g.exists_parts_of_runSlots _ records⟩
  · intro entries hentries
    refine ⟨_, run_of_records (ConnectionRecord.ofText?_of_lists hentries), ?_⟩
    intro keep text' hkeep htext'
    refine ⟨_, run_of_records (ConnectionRecord.ofText?_of_lists htext'), ?_⟩
    apply configuration_runSlots_congr
    apply filter_map_filter_zipIdx
    intro i entry hentry hdropped
    have hrecord : (entries.map ConnectionRecord.ofEntry)[i]? =
        some (ConnectionRecord.ofEntry entry) := by
      rw [List.getElem?_map, hentry]
      rfl
    obtain ⟨label, hlabel⟩ := exists_label_of_runSlots (g := g) (g.saltOr fallback) hrecord
    simp only [decide_eq_false_iff_not]
    intro happlied
    rw [happlied] at hlabel
    have hkept := hkeep i label hlabel
    rw [Nat.zero_add, hkept] at hdropped
    cases hdropped

end Gateway

end SiteVpn
