import SiteVpn.Proofs.Application
import SiteVpn.Proofs.DocumentValue

/-!
# Records in a listing and on their own

A record of a listing is read as it is read from a document of its own, whatever its shape and
whatever the other records are. So a record that is replaced changes its own slot and no other.

## Implementation notes

A record may itself have the member under which a listing has its records. In a listing this
member is one of the unknown ones, which are ignored; in a document of its own it would be read
as a listing. So such a record is compared with the document that lacks the member.
-/

namespace SiteVpn

/-- Members of unknown names may be left out. -/
theorem Json.known_filter (names : List String) (members : List (String × Json)) :
    known names (members.filter fun m => names.contains m.1) = known names members := by
  induction members with
  | nil => rfl
  | cons m ms ih =>
      by_cases hm : names.contains m.1
      · have hrepeated : (ms.filter fun m' => names.contains m'.1).any (·.1 == m.1) =
            ms.any (·.1 == m.1) := by
          rw [List.any_filter]
          congr 1
          funext m'
          by_cases h : m'.1 = m.1
          · rw [h, hm, Bool.true_and]
          · simp [h]
        rw [List.filter_cons, if_pos hm, known, known, hrepeated, ih]
      · rw [List.filter_cons, if_neg hm, ih, known, if_neg hm]

namespace ConnectionRecord

/-- What a record of a listing is in a document of its own: it lacks the member that would make
it a listing. -/
def alone : Json → Json
  | .object members => .object (members.filter (·.1 != listingName))
  | j => j

/-- Whether a value has the member under which a listing has its records. -/
def HasListing (j : Json) : Prop :=
  ∃ members listing, j = .object members ∧ members.lookup listingName = some listing

theorem lookup_listingName_filter (members : List (String × Json)) :
    (members.filter (·.1 != listingName)).lookup listingName = none := by
  rw [List.lookup_eq_none_iff]
  intro m hm
  have hne := (List.mem_filter.mp hm).2
  rw [bne_iff_ne] at hne ⊢
  exact hne.symm

/-- A value without this member stands for itself. -/
theorem alone_eq_self {j : Json} (h : ¬ HasListing j) : alone j = j := by
  cases j with
  | object members =>
      have hnone : members.lookup listingName = none := by
        by_contra hlookup
        obtain ⟨listing, hlisting⟩ := Option.ne_none_iff_exists'.mp hlookup
        exact h ⟨members, listing, rfl, hlisting⟩
      rw [alone, List.filter_eq_self.mpr]
      intro m hm
      have hne := List.lookup_eq_none_iff.mp hnone m hm
      rw [bne_iff_ne] at hne ⊢
      exact hne.symm
  | _ => rfl

/-- The reader of records reads what it regards of a value as it reads the value. -/
theorem ofJson?_regarded (j : Json) :
    (ofJson? (regarded j) : Option ConnectionRecord) = ofJson? j := by
  cases j with
  | object members =>
      have hknown : (regarded (.object members)).record? fields =
          (Json.object members).record? fields :=
        Json.known_filter (fields.map Json.Field.name) members
      exact congrArg (· >>= _) hknown
  | _ => rfl

/-- A listing inside a record is not regarded. -/
theorem regarded_alone (j : Json) : regarded (alone j) = regarded j := by
  cases j with
  | object members =>
      have hlisting : (fields.map (·.name)).contains listingName = false := by decide
      rw [alone, regarded, regarded, List.filter_filter]
      congr 1
      apply List.filter_congr
      intro m _
      by_cases hm : m.1 = listingName
      · rw [hm, hlisting, Bool.false_and]
      · rw [bne_iff_ne.mpr hm, Bool.and_true]
  | _ => rfl

/-- A listing inside a record does not matter to the record. -/
theorem ofEntry_alone (j : Json) : ofEntry (alone j) = ofEntry j := by
  have hread : (ofJson? (alone j) : Option ConnectionRecord) = ofJson? j := by
    rw [← ofJson?_regarded (alone j), regarded_alone, ofJson?_regarded]
  rw [ofEntry, ofEntry, hread, regarded_alone]

/-- A record that stands alone is the only one of its document. -/
theorem ofDocument?_alone (j : Json) : ofDocument? (alone j) = some [ofEntry j] := by
  rw [← ofEntry_alone j]
  cases j with
  | object members => simp only [ofDocument?, alone, lookup_listingName_filter]
  | _ => rfl

variable {text : String} {entries : List Json} {entry : Json}

theorem isDocument_alone (h : entry.IsDocument) : (alone entry).IsDocument := by
  cases entry with
  | object members => exact h.object_of_sublist List.filter_sublist
  | _ => exact h

theorem Lists.isDocument (h : Lists text entries) (hentry : entry ∈ entries) :
    entry.IsDocument := by
  obtain ⟨members, hread, hlookup⟩ := h
  have hdocument : (Json.object members).IsDocument := ⟨_, hread⟩
  have hlisting : (Json.array entries).IsDocument :=
    hdocument.member (mem_of_lookup_eq_some hlookup)
  exact hlisting.item hentry

end ConnectionRecord

namespace Connection

open ConnectionRecord (Lists HasListing alone ofEntry)

variable {salt : Salt}

theorem getElem?_slotsOf {entries : List Json} {i : Nat} {entry : Json}
    (h : entries[i]? = some entry) :
    (slotsOf salt entries)[i]? = some (ofSlot salt (ofEntry entry)) := by
  rw [slotsOf, List.getElem?_map, List.getElem?_map, h]
  rfl

/-- A record that stands alone is read as it is read from its listing. -/
theorem ofText?_of_alone {single : String} {entry : Json}
    (h : Json.readDocument single.toList = some (alone entry)) :
    ofText? salt single = some [ofSlot salt (ofEntry entry)] := by
  have hrecords : ConnectionRecord.ofText? single = some [ofEntry entry] := by
    rw [ConnectionRecord.ofText?, h]
    exact ConnectionRecord.ofDocument?_alone entry
  rw [ofText?, hrecords]
  rfl

theorem slotsOf_set (salt : Salt) (entries : List Json) (i : Nat) (entry : Json) :
    slotsOf salt (entries.set i entry) =
      (slotsOf salt entries).set i (ofSlot salt (ofEntry entry)) := by
  rw [slotsOf, slotsOf, List.map_set, List.map_set]

/-- A listing has the connections that its records have on their own. A text as a whole is
refused where it is no document or its listing is no array. Otherwise every record of a listing
has one result, in its order. This is the only result of each document that consists of the
record alone, and of its own text in particular, where a record that is a listing itself lacks
that member. So another record in the place of one changes the result in that place only. -/
theorem listing_agrees_with_single_records (salt : Salt) (text : String) :
    (ofText? salt text = none ↔ Json.readDocument text.toList = none ∨
      ∃ members listing, Json.readDocument text.toList = some (.object members) ∧
        members.lookup ConnectionRecord.listingName = some listing ∧
        ∀ entries, listing ≠ .array entries) ∧
    ∀ entries, Lists text entries →
      ∃ results, ofText? salt text = some results ∧ results.length = entries.length ∧
        (∀ (i : Nat) (entry : Json), entries[i]? = some entry →
          ∃ result, results[i]? = some result ∧
            Json.readDocument (alone entry).compact = some (alone entry) ∧
            (¬ HasListing entry → alone entry = entry) ∧
            ∀ single : String, Json.readDocument single.toList = some (alone entry) →
              ofText? salt single = some [result]) ∧
        ∀ (i : Nat) (entry : Json) (text' : String), Lists text' (entries.set i entry) →
          ∃ result, ofText? salt text' = some (results.set i result) := by
  constructor
  · rw [← ConnectionRecord.ofText?_eq_none_iff, ofText?, Option.map_eq_none_iff]
  · intro entries hentries
    refine ⟨slotsOf salt entries, ofText?_of_lists hentries, by simp [slotsOf], ?_, ?_⟩
    · -- Parts of documents are documents, so there is a text of the record alone.
      intro i entry hentry
      have hdocument := hentries.isDocument (List.mem_of_getElem? hentry)
      exact ⟨_, getElem?_slotsOf hentry,
        (ConnectionRecord.isDocument_alone hdocument).readDocument_compact,
        ConnectionRecord.alone_eq_self, fun _ hsingle => ofText?_of_alone hsingle⟩
    · intro i entry text' htext'
      refine ⟨ofSlot salt (ofEntry entry), ?_⟩
      rw [ofText?_of_lists htext', slotsOf_set]

end Connection

end SiteVpn
