import SiteVpn.Connection.Form
import SiteVpn.Proofs.LawfulForm

/-!
# Connection records are read back from their texts

Every part of a connection record is written under its name, lists that are empty and options
that are missing included. So no default takes the place of what was written, and a record or a
listing of records is read back from its text.
-/

namespace SiteVpn

/-- A token is written as a string, so that it is never taken for a number. -/
instance : LawfulForm TokenEntry :=
  .ofRecord 0 (fun _ => rfl) (fun _ => rfl) (fun _ => rfl) (by decide)
    (fun e => by simp (disch := decide) [LawfulForm.fits])
    (fun o e given h => by
      have hvalue : given.lookup "Value" = some (.string e.token) := h "Value"
      simp only [hvalue]
      rfl)

instance : LawfulForm TunnelOptions :=
  .ofRecord 2 (fun _ => rfl) (fun _ => rfl) (fun _ => rfl) (by decide)
    (fun t => by simp (disch := decide) [LawfulForm.fits])
    (fun o t given h => by simp [h.orDefault, List.lookup_cons])

instance : LawfulForm ConnectionOptions :=
  .ofRecord 4 (fun _ => rfl) (fun _ => rfl) (fun _ => rfl) (by decide)
    (fun c => by simp (disch := decide) [LawfulForm.fits])
    (fun o c given h => by simp [h.orDefault, List.lookup_cons])

instance : NeverNull ConnectionOptions := ⟨fun _ h => by cases h⟩

instance : LawfulForm RouteRecord :=
  .ofRecord 0 (fun _ => rfl) (fun _ => rfl) (fun _ => rfl) (by decide)
    (fun r => by simp (disch := decide) [LawfulForm.fits])
    (fun o r given h => by simp [h.required])

instance : LawfulForm Telemetry :=
  .ofRecord 0 (fun _ => rfl) (fun _ => rfl) (fun _ => rfl) (by decide)
    (fun t => by simp (disch := decide) [LawfulForm.fits])
    (fun o t given h => by simp [h.orDefault, List.lookup_cons])

instance : LawfulForm ConnectionRecord :=
  .ofRecord 5 (fun _ => rfl) (fun _ => rfl) (fun _ => rfl) (by decide)
    (fun r => by simp (disch := decide) [LawfulForm.fits])
    (fun o r given h => by simp [h.orDefault, List.lookup_cons])

namespace ConnectionRecord

/-- The listing of records. -/
def listing (rs : List ConnectionRecord) : Json := .object [(listingName, toJson rs)]

theorem isPlain_listing (rs : List ConnectionRecord) : (listing rs).IsPlain :=
  Json.isPlain_object_singleton.mpr (LawfulForm.isPlain rs)

theorem depth_listing_le (rs : List ConnectionRecord) : (listing rs).depth ≤ 8 := by
  have hrecords : (toJson rs).depth ≤ 7 := LawfulForm.depth_le rs
  rw [listing, Json.depth_object_singleton]
  exact Nat.succ_le_succ hrecords

/-- A listing has its records in their order. -/
theorem ofDocument?_listing (o : Json.MemberOrder) (rs : List ConnectionRecord) :
    ofDocument? ((listing rs).inOrder o) = some (rs.map .ok) := by
  have hmembers : (listing rs).inOrder o = .object [(listingName, (toJson rs).inOrder o)] := by
    have hperm := o.perm [(listingName, (toJson rs).inOrder o)]
    exact congrArg Json.object (List.perm_singleton.mp hperm)
  have hrecords : (toJson rs).inOrder o =
      .array (rs.map fun r => (toJson r).inOrder o) := by
    change Json.array (Json.itemsInOrder o (rs.map toJson)) = _
    rw [Json.itemsInOrder_eq_map, List.map_map]
    rfl
  have hentry : ∀ r : ConnectionRecord, ofEntry ((toJson r).inOrder o) = .ok r := fun r =>
    ofEntry_of_ofJson? (LawfulForm.ofJson?_inOrder o r)
  rw [hmembers, hrecords]
  simp [ofDocument?, hentry]

/-- A record has no member that a listing has, so it stands for itself. -/
theorem ofDocument?_toJson (o : Json.MemberOrder) (r : ConnectionRecord) :
    ofDocument? ((toJson r).inOrder o) = some [.ok r] := by
  have hread : ofEntry ((toJson r).inOrder o) = .ok r :=
    ofEntry_of_ofJson? (LawfulForm.ofJson?_inOrder o r)
  obtain ⟨members, hmembers, hlookup⟩ :
      ∃ members, (toJson r).inOrder o = .object members ∧ members.lookup listingName = none :=
    ⟨_, rfl, Json.given_arrange o (LawfulForm.isPlain r).1 listingName⟩
  rw [hmembers] at hread ⊢
  simp [ofDocument?, hlookup, hread]

/-- Whatever the style of a text is, the records of a listing and a record of its own are read
back from it as they were written. -/
theorem records_of_written_text (style : Json.Style) :
    (∀ rs : List ConnectionRecord,
      ofText? (String.ofList ((listing rs).written style)) = some (rs.map .ok)) ∧
    ∀ r : ConnectionRecord,
      ofText? (String.ofList ((toJson r).written style)) = some [.ok r] := by
  constructor
  · intro rs
    have hdepth : (listing rs).depth ≤ 127 := Nat.le_trans (depth_listing_le rs) (by decide)
    rw [ofText?, String.toList_ofList,
      Json.readDocument_written style (isPlain_listing rs) hdepth]
    exact ofDocument?_listing style.order rs
  · intro r
    have hdepth : (toJson r).depth ≤ 127 :=
      Nat.le_trans (LawfulForm.depth_le r) (by decide)
    rw [ofText?, String.toList_ofList,
      Json.readDocument_written style (LawfulForm.isPlain r) hdepth]
    exact ofDocument?_toJson style.order r

end ConnectionRecord

end SiteVpn
