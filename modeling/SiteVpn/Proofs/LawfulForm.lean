import Mathlib.Data.List.Perm.Basic
import SiteVpn.Json.Form
import SiteVpn.Proofs.Writing

/-!
# Forms that are read back

A form is lawful if its values are plain, are nested no deeper than the type allows, and give
back what was written in whatever order of their members. Numbers, texts, names of enumerations,
lists, maps and records of lawful forms are lawful, and so are missing values of a form that is
never null.

## Implementation notes

A record is read from the members of an object by name. So one lemma says what is given under
each name, and the form of a record is lawful as soon as its builder reads every field under the
name under which the field was written.
-/

namespace SiteVpn

open Json (MemberOrder)

/-- Values that are read back, with a bound for how deep they are nested. -/
class LawfulForm (α : Type) [JsonForm α] where
  depth : Nat
  isPlain (a : α) : (toJson a).IsPlain
  depth_le (a : α) : (toJson a).depth ≤ depth
  ofJson?_inOrder (o : MemberOrder) (a : α) : ofJson? ((toJson a).inOrder o) = some a

attribute [simp] LawfulForm.isPlain LawfulForm.ofJson?_inOrder

theorem LawfulForm.ofJson?_toJson {α : Type} [JsonForm α] [LawfulForm α] (a : α) :
    ofJson? (toJson a) = some a := by
  have hread := LawfulForm.ofJson?_inOrder .given a
  rwa [Json.inOrder_given] at hread

/-- A form that differs from that of a missing value. -/
class NeverNull (α : Type) [JsonForm α] : Prop where
  ne_null (a : α) : toJson a ≠ .null

/-- An enumeration whose values are known by their names. -/
class LawfulNamed (α : Type) [Named α] : Prop where
  ofName?_name (a : α) : Named.ofName? α (Named.name a) = some a

/-! ## Values without parts -/

instance : LawfulForm Bool where
  depth := 0
  isPlain _ := trivial
  depth_le _ := Nat.le_refl 0
  ofJson?_inOrder _ _ := rfl

instance : LawfulForm String where
  depth := 0
  isPlain _ := trivial
  depth_le _ := Nat.le_refl 0
  ofJson?_inOrder _ _ := rfl

namespace Json

theorem isPlain_natCast {n : Nat} (h : n < 0x10000000000000000) :
    (Json.integer n).IsPlain := by
  simp only [IsPlain]
  omega

theorem below?_natCast {n limit : Nat} (h : n < limit) :
    (Json.integer n).below? limit = some n := by
  exact if_pos h

end Json

instance : LawfulForm UInt8 where
  depth := 0
  isPlain n := Json.isPlain_natCast (Nat.lt_trans n.toNat_lt (by decide))
  depth_le _ := Nat.le_refl 0
  ofJson?_inOrder o n := by
    have hn : ((toJson n).inOrder o).below? UInt8.size = some n.toNat :=
      Json.below?_natCast n.toNat_lt
    change (((toJson n).inOrder o).below? UInt8.size).map UInt8.ofNat = some n
    rw [hn, Option.map_some, UInt8.ofNat_toNat]

instance : LawfulForm UInt32 where
  depth := 0
  isPlain n := Json.isPlain_natCast (Nat.lt_trans n.toNat_lt (by decide))
  depth_le _ := Nat.le_refl 0
  ofJson?_inOrder o n := by
    have hn : ((toJson n).inOrder o).below? UInt32.size = some n.toNat :=
      Json.below?_natCast n.toNat_lt
    change (((toJson n).inOrder o).below? UInt32.size).map UInt32.ofNat = some n
    rw [hn, Option.map_some, UInt32.ofNat_toNat]

instance {α : Type} [Named α] [LawfulNamed α] : LawfulForm α where
  depth := 0
  isPlain _ := trivial
  depth_le _ := Nat.le_refl 0
  ofJson?_inOrder _ a := LawfulNamed.ofName?_name a

/-! ## Missing values, lists and maps -/

instance : NeverNull String := ⟨fun _ h => by cases h⟩

instance : NeverNull UInt32 := ⟨fun _ h => by cases h⟩

instance {α : Type} [JsonForm α] : NeverNull (List α) := ⟨fun _ h => by cases h⟩

instance {α : Type} [Named α] : NeverNull α := ⟨fun _ h => by cases h⟩

theorem Json.inOrder_ne_null {o : MemberOrder} {j : Json} (h : j ≠ .null) :
    j.inOrder o ≠ .null := by
  cases j with
  | null => exact absurd rfl h
  | array items => exact fun h => by cases h
  | object members => exact fun h => by cases h
  | _ => exact h

theorem Json.ofJson?_of_ne_null {α : Type} [JsonForm α] {j : Json} (h : j ≠ .null) :
    (ofJson? j : Option (Option α)) = (ofJson? j).map some := by
  cases j with
  | null => exact absurd rfl h
  | _ => rfl

instance {α : Type} [JsonForm α] [LawfulForm α] [NeverNull α] : LawfulForm (Option α) where
  depth := LawfulForm.depth α
  isPlain
    | none => trivial
    | some a => LawfulForm.isPlain a
  depth_le
    | none => Nat.zero_le _
    | some a => LawfulForm.depth_le a
  ofJson?_inOrder
    | _, none => rfl
    | o, some a => by
      have hne : (toJson a).inOrder o ≠ .null := Json.inOrder_ne_null (NeverNull.ne_null a)
      change ofJson? ((toJson a).inOrder o) = some (some a)
      rw [Json.ofJson?_of_ne_null hne, LawfulForm.ofJson?_inOrder, Option.map_some]

/-- A map is made of its entries in any order. -/
theorem NameMap.ofList_of_perm {α : Type} {m : NameMap α} {entries : List (String × α)}
    (h : entries.Perm m.entries) : NameMap.ofList entries = m := by
  have hmem (k : String) (v : α) : (k, v) ∈ entries ↔ m.get? k = some v := by
    rw [h.mem_iff, m.mem_entries_iff]
  ext k
  cases hk : m.get? k with
  | some v =>
      rw [NameMap.get?_ofList_of_mem ((hmem k v).mpr hk)]
      intro w hw
      rw [hmem, hk] at hw
      exact (Option.some.inj hw).symm
  | none =>
      cases hof : (NameMap.ofList entries).get? k with
      | none => rfl
      | some w =>
          have hw := (hmem k w).mp (NameMap.mem_of_get?_ofList hof)
          rw [hk] at hw
          cases hw

section Containers

variable {α : Type} [JsonForm α] [LawfulForm α]

theorem Json.list?_inOrder (o : MemberOrder) (as : List α) :
    Json.list? (as.map fun a => (toJson a).inOrder o) = some as := by
  induction as with
  | nil => rfl
  | cons a as ih => simp [Json.list?, ih]

theorem Json.entries?_inOrder (o : MemberOrder) (entries : List (String × α)) :
    Json.entries? (entries.map fun e => (e.1, (toJson e.2).inOrder o)) = some entries := by
  induction entries with
  | nil => rfl
  | cons e es ih => simp [Json.entries?, ih]

instance : LawfulForm (List α) where
  depth := LawfulForm.depth α + 1
  isPlain as := by
    change Json.ItemsPlain (as.map toJson)
    rw [Json.itemsPlain_iff, List.forall_mem_map]
    exact fun a _ => LawfulForm.isPlain a
  depth_le as := by
    change Json.depthItems (as.map toJson) + 1 ≤ _
    rw [Nat.add_le_add_iff_right, Json.depthItems_le_iff, List.forall_mem_map]
    exact fun a _ => LawfulForm.depth_le a
  ofJson?_inOrder o as := by
    change Json.list? (Json.itemsInOrder o (as.map toJson)) = some as
    rw [Json.itemsInOrder_eq_map, List.map_map]
    exact Json.list?_inOrder o as

instance : LawfulForm (NameMap α) where
  depth := LawfulForm.depth α + 1
  isPlain m := by
    refine ⟨?_, ?_⟩
    · rw [List.map_map]
      exact m.nodup_names
    · rw [Json.membersPlain_iff, List.forall_mem_map]
      exact fun e _ => LawfulForm.isPlain e.2
  depth_le m := by
    change Json.depthMembers (m.entries.map fun e => (e.1, toJson e.2)) + 1 ≤ _
    rw [Nat.add_le_add_iff_right, Json.depthMembers_le_iff, List.forall_mem_map]
    exact fun e _ => LawfulForm.depth_le e.2
  ofJson?_inOrder o m := by
    change (Json.entries? (o.arrange (Json.membersInOrder o
      (m.entries.map fun e => (e.1, toJson e.2))))).map NameMap.ofList = some m
    have hperm := o.perm (Json.membersInOrder o (m.entries.map fun e => (e.1, toJson e.2)))
    generalize o.arrange _ = members at hperm ⊢
    rw [Json.membersInOrder_eq_map, List.map_map] at hperm
    obtain ⟨entries, rfl, hentries⟩ :
        Relation.Comp (· = List.map (fun e : String × α => (e.1, (toJson e.2).inOrder o)) ·)
          List.Perm members m.entries := by
      rw [List.eq_map_comp_perm]
      exact hperm
    rw [Json.entries?_inOrder, Option.map_some, NameMap.ofList_of_perm hentries]

end Containers

/-! ## Records -/

namespace Json

/-- Names that are known and not repeated are all given. -/
theorem known_eq_self {names : List String} {ms : List (String × Json)}
    (hnames : ∀ m ∈ ms, m.1 ∈ names) (hnodup : (ms.map (·.1)).Nodup) :
    known names ms = some ms := by
  induction ms with
  | nil => rfl
  | cons m ms ih =>
      obtain ⟨hm, hms⟩ := List.forall_mem_cons.mp hnames
      obtain ⟨hnew, htail⟩ := List.nodup_cons.mp hnodup
      have hrepeated : ¬ ms.any (·.1 == m.1) := by
        rw [List.any_eq_true]
        rintro ⟨m', hm', heq⟩
        exact hnew (List.mem_map.mpr ⟨m', hm', eq_of_beq heq⟩)
      rw [known, if_pos (List.contains_iff_mem.mpr hm), if_neg hrepeated, ih hms htail]
      rfl

theorem lookup_eq_some_iff {α : Type} {es : List (String × α)} (h : (es.map (·.1)).Nodup)
    {k : String} {v : α} : es.lookup k = some v ↔ (k, v) ∈ es := by
  refine ⟨mem_of_lookup_eq_some, fun hmem => ?_⟩
  induction es with
  | nil => cases hmem
  | cons e es ih =>
      obtain ⟨hnew, htail⟩ := List.nodup_cons.mp h
      rw [lookup_cons]
      rcases List.mem_cons.mp hmem with rfl | hmem
      · simp
      · have hne : (k == e.1) = false := by
          rw [beq_eq_false_iff_ne]
          rintro rfl
          exact hnew (List.mem_map.mpr ⟨_, hmem, rfl⟩)
        rw [hne]
        exact ih htail hmem

/-- Where no name is repeated, the order of the entries does not matter. -/
theorem lookup_eq_of_perm {α : Type} {as bs : List (String × α)} (h : as.Perm bs)
    (hnodup : (bs.map (·.1)).Nodup) (k : String) : as.lookup k = bs.lookup k := by
  have hnodup' : (as.map (·.1)).Nodup := (h.map _).nodup_iff.mpr hnodup
  ext v
  rw [lookup_eq_some_iff hnodup', lookup_eq_some_iff hnodup, h.mem_iff]

/-- What is given of members that were written in some order. -/
def Given (o : MemberOrder) (members given : List (String × Json)) : Prop :=
  ∀ name, given.lookup name = (members.lookup name).map (inOrder o)

section Given

variable {o : MemberOrder} {members given : List (String × Json)}

theorem Given.required {α : Type} [JsonForm α] (h : Given o members given) (name : String) :
    (Json.required given name : Option α) =
      members.lookup name >>= fun j => ofJson? (j.inOrder o) := by
  rw [Json.required, h name]
  cases members.lookup name <;> rfl

theorem Given.orDefault {α : Type} [JsonForm α] (h : Given o members given) (name : String)
    (default : α) :
    Json.orDefault given name default =
      ((members.lookup name).map fun j => ofJson? (j.inOrder o)).getD (some default) := by
  rw [Json.orDefault, h name]
  cases members.lookup name <;> rfl

/-- Members that are arranged are given under their names. -/
theorem given_arrange (o : MemberOrder) (hnodup : (members.map (·.1)).Nodup) :
    Given o members (o.arrange (membersInOrder o members)) := by
  have hnames : (membersInOrder o members).map (·.1) = members.map (·.1) := by
    rw [membersInOrder_eq_map, List.map_map]
    rfl
  have heach (name : String) :
      (membersInOrder o members).lookup name = (members.lookup name).map (inOrder o) := by
    rw [membersInOrder_eq_map]
    clear hnodup hnames
    induction members with
    | nil => rfl
    | cons m ms ih =>
        rw [List.map_cons, lookup_cons, lookup_cons]
        cases name == m.1 with
        | true => rfl
        | false => exact ih
  intro name
  rw [lookup_eq_of_perm (o.perm _) (hnames ▸ hnodup), heach]

/-- All fields of a record are given when its members are read. -/
theorem exists_given (o : MemberOrder) {fields : List Field}
    (hnames : members.map (·.1) = fields.map (·.name))
    (hnodup : (fields.map (·.name)).Nodup) :
    ∃ given, ((Json.object members).inOrder o).record? fields = some given ∧
      Given o members given := by
  have hperm : ((o.arrange (membersInOrder o members)).map (·.1)).Perm
      (fields.map (·.name)) := by
    rw [← hnames]
    refine ((o.perm _).map _).trans ?_
    rw [membersInOrder_eq_map, List.map_map]
    rfl
  have hknown : ∀ m ∈ o.arrange (membersInOrder o members), m.1 ∈ fields.map (·.name) :=
    fun m hm => hperm.mem_iff.mp (List.mem_map_of_mem hm)
  exact ⟨_, known_eq_self hknown (hperm.nodup_iff.mpr hnodup),
    given_arrange o (hnames ▸ hnodup)⟩

end Given

/-- Whether a value is plain and not nested too deep. -/
def Fits (depth : Nat) (j : Json) : Prop := j.IsPlain ∧ j.depth ≤ depth

end Json

theorem LawfulForm.fits {α : Type} [JsonForm α] [LawfulForm α] {n : Nat}
    (h : LawfulForm.depth α ≤ n) (a : α) : (toJson a).Fits n :=
  ⟨LawfulForm.isPlain a, Nat.le_trans (LawfulForm.depth_le a) h⟩

/-- A record is read back if its builder reads every field as it was written. -/
@[reducible]
def LawfulForm.ofRecord {α : Type} [JsonForm α] {fields : List Json.Field}
    {members : α → List (String × Json)} {build : List (String × Json) → Option α} (depth : Nat)
    (htoJson : ∀ a, toJson a = .object (members a))
    (hofJson : ∀ j, ofJson? j = j.record? fields >>= build)
    (hnames : ∀ a, (members a).map (·.1) = fields.map (·.name))
    (hnodup : (fields.map (·.name)).Nodup)
    (hfits : ∀ a, ∀ m ∈ members a, m.2.Fits depth)
    (hbuild : ∀ o a given, Json.Given o (members a) given → build given = some a) :
    LawfulForm α where
  depth := depth + 1
  isPlain a := by
    rw [htoJson]
    exact ⟨hnames a ▸ hnodup, Json.membersPlain_iff.mpr fun m hm => (hfits a m hm).1⟩
  depth_le a := by
    rw [htoJson]
    exact Nat.succ_le_succ (Json.depthMembers_le_iff.mpr fun m hm => (hfits a m hm).2)
  ofJson?_inOrder o a := by
    obtain ⟨given, hrecord, hgiven⟩ := Json.exists_given o (hnames a) hnodup
    rw [hofJson, htoJson, hrecord]
    exact hbuild o a given hgiven

end SiteVpn
