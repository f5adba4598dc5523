import Mathlib.Data.List.Forall2
import Mathlib.Data.List.Nodup
import SiteVpn.Json.Form
import SiteVpn.Proofs.LawfulForm

/-!
# The shapes of records

A record whose fields all have defaults is read from an object or from an array. What the fields
are is told here by the members or items themselves: a value has the shape of the record, and it
gives a value to each field or none. So two values that give related values to every field are
read alike by every reader that reads related values alike.
-/

namespace SiteVpn.Json

variable {names : List String} {name : String} {j j' v : Json} {given given' : List (String × Json)}

/-- The values in a record by the names of its fields, which the items of an array have in their
order. -/
def namedParts (names : List String) : Json → List (String × Json)
  | .object members => members
  | .array items => names.zip items
  | _ => []

/-- Whether a member has one of some names. -/
def hasNameAmong (names : List String) (m : String × Json) : Bool := names.contains m.1

theorem hasNameAmong_iff {m : String × Json} : hasNameAmong names m ↔ m.1 ∈ names :=
  List.contains_iff_mem

/-- Whether a record gives a value to a field. -/
def Gives (names : List String) (j : Json) (name : String) (v : Json) : Prop :=
  (name, v) ∈ j.namedParts names

/-- Whether a value has the shape of a record: it is an object that repeats no name of a field,
or an array with no more items than there are fields. -/
inductive IsRecord (names : List String) : Json → Prop
  | object {members : List (String × Json)}
      (h : ∀ name ∈ names, (members.map (·.1)).count name ≤ 1) : IsRecord names (.object members)
  | array {items : List Json} (h : items.length ≤ names.length) : IsRecord names (.array items)

/-- Fields that all have defaults. -/
def defaultedFields (names : List String) : List Field := names.map .defaulted

@[simp] theorem map_name_defaultedFields (names : List String) :
    (defaultedFields names).map (·.name) = names := by
  rw [defaultedFields, List.map_map]
  exact List.map_id names

/-- The known members are given where none of them is repeated. -/
theorem known_eq_some_iff {members : List (String × Json)} :
    known names members = some given ↔
      (∀ name ∈ names, (members.map (·.1)).count name ≤ 1) ∧
        given = members.filter (hasNameAmong names) := by
  induction members generalizing given with
  | nil => simp [known, eq_comm]
  | cons m ms ih =>
      rw [known]
      by_cases hm : names.contains m.1
      · have hname : m.1 ∈ names := List.contains_iff_mem.mp hm
        rw [if_pos hm, List.filter_cons_of_pos (p := hasNameAmong names) hm]
        by_cases hrepeated : ms.any (·.1 == m.1)
        · rw [if_pos hrepeated]
          obtain ⟨m', hm', heq⟩ := List.any_eq_true.mp hrepeated
          have hmem : m.1 ∈ ms.map (·.1) := List.mem_map.mpr ⟨m', hm', eq_of_beq heq⟩
          constructor
          · intro h
            cases h
          · rintro ⟨hcount, -⟩
            have htwice := hcount m.1 hname
            have honce := List.count_pos_iff.mpr hmem
            rw [List.map_cons, List.count_cons_self] at htwice
            omega
        · rw [if_neg hrepeated, Option.map_eq_some_iff]
          have hnew : m.1 ∉ ms.map (·.1) := by
            intro hmem
            obtain ⟨m', hm', heq⟩ := List.mem_map.mp hmem
            exact hrepeated (List.any_eq_true.mpr ⟨m', hm', beq_iff_eq.mpr heq⟩)
          have hcounts : (∀ name ∈ names, ((m :: ms).map (·.1)).count name ≤ 1) ↔
              ∀ name ∈ names, (ms.map (·.1)).count name ≤ 1 := by
            apply forall₂_congr
            intro name _
            rw [List.map_cons, List.count_cons]
            by_cases h : m.1 = name
            · subst h
              simp [List.count_eq_zero_of_not_mem hnew]
            · simp [h]
          rw [hcounts]
          constructor
          · rintro ⟨rest, hrest, rfl⟩
            obtain ⟨hcount, rfl⟩ := ih.mp hrest
            exact ⟨hcount, rfl⟩
          · rintro ⟨hcount, rfl⟩
            exact ⟨_, ih.mpr ⟨hcount, rfl⟩, rfl⟩
      · rw [if_neg hm, List.filter_cons_of_neg (p := hasNameAmong names) hm, ih]
        apply and_congr_left
        intro _
        apply forall₂_congr
        intro name hname
        have hne : m.1 ≠ name := by
          rintro rfl
          exact hm (List.contains_iff_mem.mpr hname)
        rw [List.map_cons, List.count_cons_of_ne hne]

/-- Items are given to the fields in their order, as long as there are fields for them. -/
theorem positional_eq_some_iff {items : List Json} :
    positional (defaultedFields names) items = some given ↔
      items.length ≤ names.length ∧ given = names.zip items := by
  induction names generalizing items given with
  | nil =>
      cases items with
      | nil => simp [defaultedFields, positional, eq_comm]
      | cons j js => simp [defaultedFields, positional]
  | cons name names ih =>
      cases items with
      | nil =>
          change positional (defaultedFields names) [] = some given ↔ _
          rw [ih, List.zip_nil_right, List.zip_nil_right]
          exact and_congr_left fun _ => iff_of_true (Nat.zero_le _) (Nat.zero_le _)
      | cons j js =>
          change (positional (defaultedFields names) js).map _ = some given ↔ _
          rw [Option.map_eq_some_iff]
          simp only [ih, List.length_cons, Nat.add_le_add_iff_right, List.zip_cons_cons]
          constructor
          · rintro ⟨_, ⟨hlength, rfl⟩, rfl⟩
            exact ⟨hlength, rfl⟩
          · rintro ⟨hlength, rfl⟩
            exact ⟨_, ⟨hlength, rfl⟩, rfl⟩

/-- What is given are the parts under the names of fields. -/
theorem record?_eq_some_iff :
    j.record? (defaultedFields names) = some given ↔
      IsRecord names j ∧ given = (j.namedParts names).filter (hasNameAmong names) := by
  cases j with
  | object members =>
      rw [record?, map_name_defaultedFields, known_eq_some_iff]
      constructor
      · rintro ⟨h, hgiven⟩
        exact ⟨.object h, hgiven⟩
      · rintro ⟨⟨h⟩, hgiven⟩
        exact ⟨h, hgiven⟩
  | array items =>
      have hall : (names.zip items).filter (hasNameAmong names) = names.zip items := by
        rw [List.filter_eq_self]
        intro m hm
        exact List.contains_iff_mem.mpr (List.of_mem_zip hm).1
      rw [record?, positional_eq_some_iff, namedParts, hall]
      constructor
      · rintro ⟨h, hgiven⟩
        exact ⟨.array h, hgiven⟩
      · rintro ⟨⟨⟩ | ⟨h⟩, hgiven⟩
        exact ⟨h, hgiven⟩
  | _ =>
      constructor
      · intro h
        cases h
      · rintro ⟨h, -⟩
        cases h

theorem map_fst_zip_sublist (names : List String) (items : List Json) :
    ((names.zip items).map (·.1)).Sublist names := by
  induction names generalizing items with
  | nil => exact .refl []
  | cons name names ih =>
      cases items with
      | nil => exact List.nil_sublist _
      | cons j js => exact (ih js).cons_cons name

/-- No field is given twice. -/
theorem nodup_of_record? (hnames : names.Nodup)
    (h : j.record? (defaultedFields names) = some given) : (given.map (·.1)).Nodup := by
  obtain ⟨hshape, rfl⟩ := record?_eq_some_iff.mp h
  cases hshape with
  | @object members hcount =>
      rw [List.nodup_iff_count_le_one]
      intro name
      by_cases hname : name ∈ names
      · have hsublist : ((members.filter (hasNameAmong names)).map (·.1)).Sublist
            (members.map (·.1)) := List.filter_sublist.map _
        exact Nat.le_trans (hsublist.count_le name) (hcount name hname)
      · rw [List.count_eq_zero_of_not_mem]
        · exact Nat.zero_le 1
        · intro hmem
          obtain ⟨m, hm, rfl⟩ := List.mem_map.mp hmem
          exact hname (List.contains_iff_mem.mp (List.mem_filter.mp hm).2)
  | @array items hlength =>
      have hsublist : (((names.zip items).filter (hasNameAmong names)).map (·.1)).Sublist
          ((names.zip items).map (·.1)) := List.filter_sublist.map _
      exact (hsublist.trans (map_fst_zip_sublist names items)).nodup hnames

section Lookup

variable (hnames : names.Nodup) (hname : name ∈ names)
  (h : j.record? (defaultedFields names) = some given)

include hnames hname h

theorem lookup_eq_some_iff_gives : given.lookup name = some v ↔ Gives names j name v := by
  rw [lookup_eq_some_iff (nodup_of_record? hnames h), (record?_eq_some_iff.mp h).2,
    List.mem_filter, hasNameAmong_iff]
  exact and_iff_left hname

theorem lookup_eq_none_iff_gives : given.lookup name = none ↔ ∀ v, ¬ Gives names j name v := by
  simp only [← lookup_eq_some_iff_gives hnames hname h, Option.eq_none_iff_forall_ne_some, ne_eq]

omit h in
/-- A record gives no two values to a field. -/
theorem IsRecord.eq_of_gives {v' : Json} (hshape : IsRecord names j) (hv : Gives names j name v)
    (hv' : Gives names j name v') : v = v' := by
  have hgiven := record?_eq_some_iff.mpr ⟨hshape, rfl⟩
  rw [← lookup_eq_some_iff_gives hnames hname hgiven] at hv hv'
  exact Option.some.inj (hv.symm.trans hv')

/-- A field has its default where it is not given, and else the value that is read. -/
theorem orDefault_eq_some_iff {α : Type} [JsonForm α] {default a : α} :
    orDefault given name default = some a ↔
      ((∀ v, ¬ Gives names j name v) ∧ a = default) ∨
        ∃ v, Gives names j name v ∧ ofJson? v = some a := by
  rw [← lookup_eq_none_iff_gives hnames hname h]
  simp only [← lookup_eq_some_iff_gives hnames hname h]
  unfold orDefault
  cases given.lookup name with
  | none => simp [eq_comm]
  | some v => simp

end Lookup

/-! ## Records with related fields -/

variable {R : String → Json → Json → Prop}

/-- Whether two members have one name and values that are related under it. -/
def MemberRelated (R : String → Json → Json → Prop) (m m' : String × Json) : Prop :=
  m.1 = m'.1 ∧ R m.1 m.2 m'.2

/-- Whether two values are records of one shape with related values in every field. Values of
other shapes are only related to themselves. -/
inductive Fieldwise (names : List String) (R : String → Json → Json → Prop) : Json → Json → Prop
  | same (j : Json) : Fieldwise names R j j
  | object {members members' : List (String × Json)}
      (h : List.Forall₂ (MemberRelated R) members members') :
      Fieldwise names R (.object members) (.object members')
  | array {items items' : List Json} (hlength : items.length = items'.length)
      (h : List.Forall₂ (MemberRelated R) (names.zip items) (names.zip items')) :
      Fieldwise names R (.array items) (.array items')

theorem map_fst_of_related {members members' : List (String × Json)}
    (h : List.Forall₂ (MemberRelated R) members members') :
    members.map (·.1) = members'.map (·.1) := by
  induction h with
  | nil => rfl
  | cons hm _ ih => rw [List.map_cons, List.map_cons, hm.1, ih]

theorem lookup_of_related (h : List.Forall₂ (MemberRelated R) given given') (name : String) :
    Option.Rel (R name) (given.lookup name) (given'.lookup name) := by
  induction h with
  | nil => exact .none
  | @cons m m' ms ms' hm _ ih =>
      obtain ⟨key, v⟩ := m
      obtain ⟨key', v'⟩ := m'
      obtain ⟨rfl, hv⟩ : key = key' ∧ R key v v' := hm
      by_cases hkey : name = key
      · subst hkey
        rw [List.lookup_cons_self, List.lookup_cons_self]
        exact .some hv
      · have hkey' : (name == key) = false := beq_eq_false_iff_ne.mpr hkey
        rw [List.lookup_cons, List.lookup_cons, hkey']
        exact ih

/-- Where two fields are read alike, they have one value. -/
theorem orDefault_of_related {α : Type} [JsonForm α]
    (h : List.Forall₂ (MemberRelated R) given given') {name : String}
    (hread : ∀ v v', R name v v' → (ofJson? v' : Option α) = ofJson? v) (default : α) :
    orDefault given' name default = orDefault given name default := by
  have hlookup := lookup_of_related h name
  unfold orDefault
  generalize given.lookup name = v? at hlookup
  generalize given'.lookup name = v'? at hlookup
  cases hlookup with
  | none => rfl
  | some hv => exact hread _ _ hv

theorem Fieldwise.namedParts (hR : ∀ name v, R name v v) (h : Fieldwise names R j j') :
    List.Forall₂ (MemberRelated R) (j.namedParts names) (j'.namedParts names) := by
  cases h with
  | same j => exact List.forall₂_same.mpr fun m _ => ⟨rfl, hR m.1 m.2⟩
  | object h => exact h
  | array _ h => exact h

theorem Fieldwise.isRecord_iff (h : Fieldwise names R j j') :
    IsRecord names j ↔ IsRecord names j' := by
  cases h with
  | same j => rfl
  | object h =>
      have hkeys := map_fst_of_related h
      constructor
      · rintro ⟨hcount⟩
        exact .object (hkeys ▸ hcount)
      · rintro ⟨hcount⟩
        exact .object (hkeys ▸ hcount)
  | array hlength _ =>
      constructor
      · intro h
        cases h with
        | array h => exact .array (hlength ▸ h)
      · intro h
        cases h with
        | array h => exact .array (hlength ▸ h)

/-- Readers that see no difference between related fields read related records alike. -/
theorem bind_record?_of_fieldwise {α : Type} {build : List (String × Json) → Option α}
    (hR : ∀ name v, R name v v)
    (hbuild : ∀ given given', List.Forall₂ (MemberRelated R) given given' →
      build given' = build given) (h : Fieldwise names R j j') :
    (j'.record? (defaultedFields names)).bind build =
      (j.record? (defaultedFields names)).bind build := by
  by_cases hshape : IsRecord names j
  · have hgiven := record?_eq_some_iff.mpr ⟨hshape, rfl⟩
    have hgiven' := record?_eq_some_iff.mpr ⟨h.isRecord_iff.mp hshape, rfl⟩
    have hrelated : List.Forall₂ (MemberRelated R)
        ((j.namedParts names).filter (hasNameAmong names))
        ((j'.namedParts names).filter (hasNameAmong names)) := by
      refine List.rel_filter (fun m m' hm => ?_) (h.namedParts hR)
      simp only [hasNameAmong_iff, hm.1]
    rw [hgiven, hgiven']
    exact hbuild _ _ hrelated
  · have hnone : ∀ j : Json, ¬ IsRecord names j → j.record? (defaultedFields names) = none := by
      intro j hj
      rw [Option.eq_none_iff_forall_ne_some]
      exact fun given hgiven => hj (record?_eq_some_iff.mp hgiven).1
    rw [hnone j hshape, hnone j' (mt h.isRecord_iff.mpr hshape)]

end SiteVpn.Json
