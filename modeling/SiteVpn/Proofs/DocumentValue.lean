import SiteVpn.Proofs.Writing

/-!
# The values of documents

A document of its own is read as a plain value: its numbers are those of scanned literals, what
has no content is refused, and of members with one name the last one is kept. A plain value is
read back from its own text. So the values of documents are the plain ones that are not nested
too deep, and every part of a document is the value of a document as well.

## Implementation notes

While a text is read, a part of it may still turn out to have no content, which makes the whole
of it unreadable. So the values that the machine holds are plain only if they are readable, and
only once the members that count are kept.
-/

namespace SiteVpn.Json

/-! ## Settled values -/

theorem keepLast_sublist {α : Type} (ms : List (String × α)) : (keepLast ms).Sublist ms := by
  rw [keepLast_eq_lastOfEach]
  exact lastOfEach_sublist _ ms

theorem itemsReadable_iff {js : List Json} : itemsReadable js ↔ ∀ j ∈ js, j.isReadable := by
  induction js with
  | nil => simp [itemsReadable]
  | cons j js ih => simp [itemsReadable, ih]

theorem membersReadable_iff {ms : List (String × Json)} :
    membersReadable ms ↔ ∀ m ∈ ms, m.2.isReadable := by
  induction ms with
  | nil => simp [membersReadable]
  | cons m ms ih => simp [membersReadable, ih]

mutual

/-- Values are not nested deeper once they are settled. -/
theorem depth_settle_le : ∀ j : Json, j.settle.depth ≤ j.depth
  | .null | .bool _ | .integer _ | .decimal _ | .string _ | .unreadable => Nat.le_refl _
  | .array js => Nat.succ_le_succ (depthItems_settleItems_le js)
  | .object ms => by
      have hmembers := depthMembers_le_iff.mp (depthMembers_settleMembers_le ms)
      exact Nat.succ_le_succ (depthMembers_le_iff.mpr fun m hm =>
        hmembers m ((keepLast_sublist _).subset hm))

theorem depthItems_settleItems_le :
    ∀ js : List Json, depthItems (settleItems js) ≤ depthItems js
  | [] => Nat.le_refl 0
  | j :: js => by
      have hhead := depth_settle_le j
      have htail := depthItems_settleItems_le js
      simp only [settleItems, depthItems]
      omega

theorem depthMembers_settleMembers_le :
    ∀ ms : List (String × Json), depthMembers (settleMembers ms) ≤ depthMembers ms
  | [] => Nat.le_refl 0
  | (_, j) :: ms => by
      have hhead := depth_settle_le j
      have htail := depthMembers_settleMembers_le ms
      simp only [settleMembers, depthMembers]
      omega

end

/-- Whether a value is plain once it is settled, unless something in it has no content. -/
def SettlesPlain (j : Json) : Prop := j.isReadable → j.settle.IsPlain

theorem NumberLiteral.WellFormed.settlesPlain {l : NumberLiteral} (hl : l.WellFormed) :
    l.toJson.SettlesPlain := by
  intro hreadable
  rcases l.toJson_cases with ⟨n, hn, hrange⟩ | hdecimal | hunreadable
  · rw [hn]
    exact hrange
  · rw [hdecimal]
    exact ⟨l, hl, hdecimal⟩
  · rw [hunreadable] at hreadable
    cases hreadable

theorem settlesPlain_array {items : List Json} (h : ∀ j ∈ items, j.SettlesPlain) :
    (Json.array items).SettlesPlain := by
  intro hreadable
  change ItemsPlain (settleItems items)
  rw [settleItems_eq_map, itemsPlain_iff, List.forall_mem_map]
  exact fun j hj => h j hj (itemsReadable_iff.mp hreadable j hj)

theorem settlesPlain_object {members : List (String × Json)}
    (h : ∀ m ∈ members, m.2.SettlesPlain) : (Json.object members).SettlesPlain := by
  intro hreadable
  have hnodup : ((keepLast (settleMembers members)).map (·.1)).Nodup := by
    rw [keepLast_eq_lastOfEach]
    exact nodup_keys_lastOfEach _ _
  refine ⟨hnodup, membersPlain_iff.mpr fun m hm => ?_⟩
  have hsettled := (keepLast_sublist _).subset hm
  rw [settleMembers_eq_map] at hsettled
  obtain ⟨m', hm', rfl⟩ := List.mem_map.mp hsettled
  exact h m' hm' (membersReadable_iff.mp hreadable m' hm')

theorem settlesPlain_objectOf {before : List (Option String × Json)}
    (h : ∀ m ∈ before, m.2.SettlesPlain) : (objectOf before).SettlesPlain := by
  unfold objectOf
  dsimp only
  split
  · apply settlesPlain_object
    rw [List.forall_mem_map]
    exact fun m hm => h m (List.mem_reverse.mp hm)
  · exact nofun

/-! ## What the machine holds -/

/-- Whether the value that a token carries, if it carries one, settles to a plain one. -/
def Token.Settles (t : Token) : Prop := ∀ v, t = .scalar v → v.SettlesPlain

theorem Token.settles_of_scan {cs rest : List Char} {t : Token}
    (h : Token.scan cs = some (t, rest)) : t.Settles := by
  rintro v rfl
  unfold Token.scan at h
  split at h
  case h_7 =>
    obtain ⟨⟨units, rest'⟩, -, h⟩ := Option.bind_eq_some_iff.mp h
    cases h
  case h_8 | h_9 | h_10 =>
    cases h
    exact fun _ => trivial
  case h_11 =>
    obtain ⟨⟨l, rest'⟩, hscan, h⟩ := Option.bind_eq_some_iff.mp h
    cases h
    exact (NumberLiteral.wellFormed_of_scan hscan).settlesPlain
  all_goals cases h

theorem Token.settles_of_ofText {cs : List Char} {ts : List Token}
    (h : Token.ofText cs = some ts) : ∀ t ∈ ts, t.Settles := by
  unfold Token.ofText at h
  generalize cs.length + 1 = fuel at h
  induction fuel generalizing cs ts with
  | zero => cases h
  | succ fuel ih =>
      rw [Token.scanAll] at h
      split at h
      case h_1 =>
        cases h
        exact List.forall_mem_nil _
      case h_2 =>
        obtain ⟨⟨t, rest⟩, hscan, h⟩ := Option.bind_eq_some_iff.mp h
        obtain ⟨ts', hrest, h⟩ := Option.bind_eq_some_iff.mp h
        cases h
        exact List.forall_mem_cons.mpr ⟨Token.settles_of_scan hscan, ih hrest⟩

/-- Whether the values in an array or object that is still open settle to plain ones. -/
def Frame.Settles : Frame → Prop
  | .items before => ∀ v ∈ before, v.SettlesPlain
  | .members before | .member before _ => ∀ m ∈ before, m.2.SettlesPlain

/-- Whether a value that is complete settles to a plain one. -/
def Due.Settles : Due → Prop
  | .none v => v.SettlesPlain
  | _ => True

/-- Whether all values that the machine holds settle to plain ones. -/
def Settles (s : Due × List Frame) : Prop := s.1.Settles ∧ ∀ f ∈ s.2, f.Settles

variable {stack : List Frame} {t : Token} {s s' : Due × List Frame}

theorem settles_startValue (ht : t.Settles) (hstack : ∀ f ∈ stack, f.Settles)
    (h : startValue stack t = some s) : Settles s := by
  unfold startValue at h
  split at h
  case h_1 v =>
    cases h
    exact ⟨ht v rfl, hstack⟩
  case h_2 =>
    cases h
    exact ⟨fun _ => trivial, hstack⟩
  case h_3 =>
    cases h
    exact ⟨nofun, hstack⟩
  case h_4 | h_5 =>
    cases h
    exact ⟨trivial, List.forall_mem_cons.mpr ⟨nofun, hstack⟩⟩
  case h_6 => cases h

theorem settles_afterValue {v : Json} (hv : v.SettlesPlain) (hstack : ∀ f ∈ stack, f.Settles)
    (h : afterValue v stack t = some s) : Settles s := by
  unfold afterValue at h
  split at h
  case h_5 => cases h
  all_goals
    obtain ⟨hframe, hstack⟩ := List.forall_mem_cons.mp hstack
    cases h
  case h_1 =>
    exact ⟨trivial, List.forall_mem_cons.mpr ⟨List.forall_mem_cons.mpr ⟨hv, hframe⟩, hstack⟩⟩
  case h_2 =>
    refine ⟨settlesPlain_array fun j hj => ?_, hstack⟩
    exact List.forall_mem_cons.mpr ⟨hv, hframe⟩ j (List.mem_reverse.mp hj)
  case h_3 =>
    exact ⟨trivial, List.forall_mem_cons.mpr ⟨List.forall_mem_cons.mpr ⟨hv, hframe⟩, hstack⟩⟩
  case h_4 =>
    exact ⟨settlesPlain_objectOf (List.forall_mem_cons.mpr ⟨hv, hframe⟩), hstack⟩

/-- One token leaves the machine with values that settle to plain ones. -/
theorem Settles.step (hs : Settles s) (ht : t.Settles) (h : step s t = some s') :
    Settles s' := by
  -- By what is due and the innermost frame. Only closing marks build a value of others.
  unfold Json.step at h
  split at h
  case h_1 => exact settles_startValue ht hs.2 h
  case h_2 =>
    obtain ⟨hframe, hstack⟩ := List.forall_mem_cons.mp hs.2
    cases h
    exact ⟨settlesPlain_array fun j hj => hframe j (List.mem_reverse.mp hj), hstack⟩
  case h_3 => exact settles_startValue ht hs.2 h
  case h_4 =>
    obtain ⟨hframe, hstack⟩ := List.forall_mem_cons.mp hs.2
    cases h
    exact ⟨settlesPlain_objectOf hframe, hstack⟩
  case h_5 | h_6 =>
    obtain ⟨hframe, hstack⟩ := List.forall_mem_cons.mp hs.2
    cases h
    exact ⟨trivial, List.forall_mem_cons.mpr ⟨hframe, hstack⟩⟩
  case h_7 =>
    cases h
    exact ⟨trivial, hs.2⟩
  case h_8 => exact settles_afterValue hs.1 hs.2 h
  case h_9 => cases h

theorem Settles.steps {ts : List Token} (hs : Settles s) (hts : ∀ t ∈ ts, t.Settles)
    (h : ts.foldlM Json.step s = some s') : Settles s' := by
  induction ts generalizing s with
  | nil =>
      cases h
      exact hs
  | cons t ts ih =>
      obtain ⟨ht, hts⟩ := List.forall_mem_cons.mp hts
      obtain ⟨s₁, hstep, h⟩ := Option.bind_eq_some_iff.mp h
      exact ih (hs.step ht hstep) hts h

theorem settlesPlain_of_read {text : List Char} {j : Json} (h : read text = some j) :
    j.SettlesPlain := by
  obtain ⟨ts, htokens, h⟩ := Option.bind_eq_some_iff.mp h
  unfold ofTokens at h
  split at h
  case h_1 hfold =>
    cases h
    have hstart : Settles (.value, []) := ⟨trivial, nofun⟩
    exact (hstart.steps (Token.settles_of_ofText htokens) hfold).1
  case h_2 => cases h

/-! ## Values of documents -/

/-- Whether a value is that of a document of its own. -/
def IsDocument (j : Json) : Prop := ∃ text, readDocument text = some j

/-- The values of documents are the plain ones that are not nested too deep. -/
theorem isDocument_iff {j : Json} : j.IsDocument ↔ j.IsPlain ∧ j.depth ≤ 127 := by
  constructor
  · rintro ⟨text, h⟩
    unfold readDocument at h
    split at h
    case h_1 j' hread =>
      split at h
      case isTrue hdocument =>
        cases h
        exact ⟨settlesPlain_of_read hread hdocument.1,
          Nat.le_trans (depth_settle_le j') hdocument.2⟩
      case isFalse => cases h
    case h_2 => cases h
  · rintro ⟨hplain, hdepth⟩
    exact ⟨Layout.dense.text 0 j, readDocument_text .dense hplain hdepth⟩

/-- The value of a document is read back from its own text. -/
theorem IsDocument.readDocument_compact {j : Json} (h : j.IsDocument) :
    readDocument j.compact = some j := by
  obtain ⟨hplain, hdepth⟩ := isDocument_iff.mp h
  rw [← Layout.text_dense 0]
  exact readDocument_text .dense hplain hdepth

/-- The items of a document are documents. -/
theorem IsDocument.item {items : List Json} (h : (Json.array items).IsDocument) {j : Json}
    (hj : j ∈ items) : j.IsDocument := by
  obtain ⟨hplain, hdepth⟩ := isDocument_iff.mp h
  exact isDocument_iff.mpr ⟨itemsPlain_iff.mp hplain j hj,
    depthItems_le_iff.mp (Nat.le_of_succ_le hdepth) j hj⟩

/-- The members of a document are documents. -/
theorem IsDocument.member {members : List (String × Json)}
    (h : (Json.object members).IsDocument) {m : String × Json} (hm : m ∈ members) :
    m.2.IsDocument := by
  obtain ⟨hplain, hdepth⟩ := isDocument_iff.mp h
  exact isDocument_iff.mpr ⟨membersPlain_iff.mp hplain.2 m hm,
    depthMembers_le_iff.mp (Nat.le_of_succ_le hdepth) m hm⟩

/-- A document from which members are left out is a document. -/
theorem IsDocument.object_of_sublist {members members' : List (String × Json)}
    (h : (Json.object members).IsDocument) (hsub : members'.Sublist members) :
    (Json.object members').IsDocument := by
  obtain ⟨⟨hnodup, hplain⟩, hdepth⟩ := isDocument_iff.mp h
  have hmembers : depthMembers members ≤ 126 := Nat.le_of_succ_le_succ hdepth
  refine isDocument_iff.mpr ⟨⟨hnodup.sublist (hsub.map _), ?_⟩, Nat.succ_le_succ ?_⟩
  · exact membersPlain_iff.mpr fun m hm => membersPlain_iff.mp hplain m (hsub.subset hm)
  · exact depthMembers_le_iff.mpr fun m hm => depthMembers_le_iff.mp hmembers m (hsub.subset hm)

end SiteVpn.Json
