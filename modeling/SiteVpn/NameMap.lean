/-!
# Maps with names as keys

A map keeps its entries in ascending order of their names, by code points, so
that its listing is in the order of the names and two maps with the same
look-ups are equal. Every operation is made of one: laying a map over another.
-/

namespace SiteVpn

/-- Entries in strictly ascending order of their names. -/
def Ascending {α : Type} (entries : List (String × α)) : Prop :=
  entries.Pairwise fun a b => a.1 < b.1

/-- The entries of two listings by ascending name. Where both have a name, the
second's entry is kept. -/
def overlay {α : Type} : List (String × α) → List (String × α) → List (String × α)
  | [], bs => bs
  | a :: as, [] => a :: as
  | a :: as, b :: bs =>
    if a.1 < b.1 then a :: overlay as (b :: bs)
    else if b.1 < a.1 then b :: overlay (a :: as) bs
    else b :: overlay as bs
termination_by as bs => as.length + bs.length

section Overlay

variable {α : Type}

theorem mem_overlay {as bs : List (String × α)} {e : String × α}
    (h : e ∈ overlay as bs) : e ∈ as ∨ e ∈ bs := by
  fun_induction overlay as bs with
  | case1 bs => exact .inr h
  | case2 a as => exact .inl h
  | case3 a as b bs _ ih =>
    rcases List.mem_cons.mp h with rfl | h
    · exact .inl (List.mem_cons_self ..)
    · rcases ih h with h | h
      · exact .inl (List.mem_cons_of_mem _ h)
      · exact .inr h
  | case4 a as b bs _ _ ih =>
    rcases List.mem_cons.mp h with rfl | h
    · exact .inr (List.mem_cons_self ..)
    · rcases ih h with h | h
      · exact .inl h
      · exact .inr (List.mem_cons_of_mem _ h)
  | case5 a as b bs _ _ ih =>
    rcases List.mem_cons.mp h with rfl | h
    · exact .inr (List.mem_cons_self ..)
    · rcases ih h with h | h
      · exact .inl (List.mem_cons_of_mem _ h)
      · exact .inr (List.mem_cons_of_mem _ h)

theorem eq_of_not_lt {a b : String} (h : ¬ a < b) (h' : ¬ b < a) : a = b :=
  String.le_antisymm (String.not_lt.mp h') (String.not_lt.mp h)

theorem Ascending.overlay {as bs : List (String × α)} (ha : Ascending as)
    (hb : Ascending bs) : Ascending (overlay as bs) := by
  fun_induction SiteVpn.overlay as bs with
  | case1 bs => exact hb
  | case2 a as => exact ha
  | case3 a as b bs h ih =>
    obtain ⟨h₁, h₂⟩ := List.pairwise_cons.mp ha
    refine List.pairwise_cons.mpr ⟨fun e he => ?_, ih h₂ hb⟩
    rcases mem_overlay he with he | he
    · exact h₁ e he
    · rcases List.mem_cons.mp he with rfl | he
      · exact h
      · exact String.lt_trans h ((List.pairwise_cons.mp hb).1 e he)
  | case4 a as b bs _ h ih =>
    obtain ⟨h₁, h₂⟩ := List.pairwise_cons.mp hb
    refine List.pairwise_cons.mpr ⟨fun e he => ?_, ih ha h₂⟩
    rcases mem_overlay he with he | he
    · rcases List.mem_cons.mp he with rfl | he
      · exact h
      · exact String.lt_trans h ((List.pairwise_cons.mp ha).1 e he)
    · exact h₁ e he
  | case5 a as b bs h h' ih =>
    obtain ⟨h₁, h₂⟩ := List.pairwise_cons.mp ha
    obtain ⟨h₃, h₄⟩ := List.pairwise_cons.mp hb
    refine List.pairwise_cons.mpr ⟨fun e he => ?_, ih h₂ h₄⟩
    rcases mem_overlay he with he | he
    · exact eq_of_not_lt h h' ▸ h₁ e he
    · exact h₃ e he

theorem lookup_cons (k : String) (e : String × α) (es : List (String × α)) :
    (e :: es).lookup k = match k == e.1 with
      | true => some e.2
      | false => es.lookup k := List.lookup_cons

theorem lookup_eq_none_of_lt {es : List (String × α)} {k : String}
    (h : ∀ e ∈ es, k < e.1) : es.lookup k = none := by
  induction es with
  | nil => rfl
  | cons e es ih =>
    have hne : (k == e.1) = false := by
      have := h e (List.mem_cons_self ..)
      exact beq_eq_false_iff_ne.mpr fun he => String.lt_irrefl e.1 (he ▸ this)
    rw [List.lookup_cons, hne]
    exact ih fun e he => h e (List.mem_cons_of_mem _ he)

theorem lookup_overlay {as bs : List (String × α)} (ha : Ascending as)
    (hb : Ascending bs) (k : String) :
    (overlay as bs).lookup k = (bs.lookup k).or (as.lookup k) := by
  fun_induction overlay as bs with
  | case1 bs => simp
  | case2 a as => simp
  | case3 a as b bs h ih =>
    obtain ⟨h₁, h₂⟩ := List.pairwise_cons.mp ha
    rw [lookup_cons, ih h₂ hb, lookup_cons k a as]
    cases hk : k == a.1 with
    | false => rfl
    | true =>
      obtain rfl := eq_of_beq hk
      have hlt : ∀ e ∈ b :: bs, a.1 < e.1 := by
        intro e he
        rcases List.mem_cons.mp he with rfl | he
        · exact h
        · exact String.lt_trans h ((List.pairwise_cons.mp hb).1 e he)
      rw [lookup_eq_none_of_lt hlt]
      rfl
  | case4 a as b bs _ h ih =>
    obtain ⟨h₁, h₂⟩ := List.pairwise_cons.mp hb
    rw [lookup_cons, ih ha h₂, lookup_cons k b bs]
    cases hk : k == b.1 <;> rfl
  | case5 a as b bs h h' ih =>
    obtain ⟨h₁, h₂⟩ := List.pairwise_cons.mp ha
    obtain ⟨h₃, h₄⟩ := List.pairwise_cons.mp hb
    rw [lookup_cons, ih h₂ h₄, lookup_cons k b bs, lookup_cons k a as, eq_of_not_lt h h']
    cases hk : k == b.1 <;> rfl

theorem mem_of_lookup_eq_some {es : List (String × α)} {k : String} {v : α}
    (h : es.lookup k = some v) : (k, v) ∈ es := by
  induction es with
  | nil => simp at h
  | cons e es ih =>
    rw [List.lookup_cons] at h
    cases hk : k == e.1 with
    | true =>
      rw [hk] at h
      obtain rfl := eq_of_beq hk
      obtain rfl : e.2 = v := by simpa using h
      exact List.mem_cons_self ..
    | false =>
      rw [hk] at h
      exact List.mem_cons_of_mem _ (ih h)

theorem lookup_eq_some_of_mem {es : List (String × α)} (hs : Ascending es)
    {k : String} {v : α} (h : (k, v) ∈ es) : es.lookup k = some v := by
  induction es with
  | nil => simp at h
  | cons e es ih =>
    obtain ⟨h₁, h₂⟩ := List.pairwise_cons.mp hs
    rw [List.lookup_cons]
    rcases List.mem_cons.mp h with rfl | h
    · simp
    · have hne : (k == e.1) = false :=
        beq_eq_false_iff_ne.mpr fun he => String.lt_irrefl k (by
          have := h₁ _ h; rwa [← he] at this)
      rw [hne]
      exact ih h₂ h

theorem Ascending.eq_of_lookup {as bs : List (String × α)} (ha : Ascending as)
    (hb : Ascending bs) (h : ∀ k, as.lookup k = bs.lookup k) : as = bs := by
  have sub : ∀ {cs ds : List (String × α)}, Ascending cs → Ascending ds →
      (∀ k, cs.lookup k = ds.lookup k) → ∀ e ∈ cs, e ∈ ds := by
    intro cs ds hc _ hl e he
    exact mem_of_lookup_eq_some ((hl e.1) ▸ lookup_eq_some_of_mem hc (v := e.2) he)
  induction as generalizing bs with
  | nil =>
    cases bs with
    | nil => rfl
    | cons b bs =>
      have hk := h b.1
      rw [List.lookup_cons, beq_self_eq_true] at hk
      exact absurd hk (by simp)
  | cons a as ih =>
    cases bs with
    | nil =>
      have hk := h a.1
      rw [List.lookup_cons, beq_self_eq_true] at hk
      exact absurd hk (by simp)
    | cons b bs =>
      obtain ⟨h₁, h₂⟩ := List.pairwise_cons.mp ha
      obtain ⟨h₃, h₄⟩ := List.pairwise_cons.mp hb
      have hab : a = b := by
        rcases List.mem_cons.mp (sub ha hb h a (List.mem_cons_self ..)) with h' | h'
        · exact h'
        · rcases List.mem_cons.mp
            (sub hb ha (fun k => (h k).symm) b (List.mem_cons_self ..)) with h'' | h''
          · exact h''.symm
          · exact absurd (String.lt_trans (h₃ a h') (h₁ b h'')) (String.lt_irrefl b.1)
      subst hab
      refine congrArg (a :: ·) (ih h₂ h₄ fun k => ?_)
      have hk := h k
      rw [List.lookup_cons, List.lookup_cons] at hk
      cases hka : k == a.1 with
      | false => simpa [hka] using hk
      | true =>
        obtain rfl := eq_of_beq hka
        rw [lookup_eq_none_of_lt h₁, lookup_eq_none_of_lt h₃]

end Overlay

/-- A map from names to values. -/
structure NameMap (α : Type) where
  entries : List (String × α)
  ascending : Ascending entries
deriving DecidableEq

namespace NameMap

variable {α : Type}

/-- The map without entries. -/
def empty : NameMap α := ⟨[], List.Pairwise.nil⟩

instance : Inhabited (NameMap α) := ⟨empty⟩

instance : EmptyCollection (NameMap α) := ⟨empty⟩

/-- The value under a name. -/
def get? (m : NameMap α) (name : String) : Option α := m.entries.lookup name

/-- Whether a name has a value. -/
def contains (m : NameMap α) (name : String) : Bool := (m.get? name).isSome

/-- The map with one entry. -/
def singleton (name : String) (value : α) : NameMap α :=
  ⟨[(name, value)], List.pairwise_singleton ..⟩

/-- Lays a map over another: its entries replace those of the same name. -/
def extend (m n : NameMap α) : NameMap α :=
  ⟨overlay m.entries n.entries, m.ascending.overlay n.ascending⟩

/-- Sets the value under a name. -/
def insert (m : NameMap α) (name : String) (value : α) : NameMap α :=
  m.extend (singleton name value)

/-- The map of a list of entries, of which the last of each name is kept. -/
def ofList (entries : List (String × α)) : NameMap α :=
  entries.foldl (fun m e => m.insert e.1 e.2) empty

/-- The number of entries. -/
def size (m : NameMap α) : Nat := m.entries.length

/-- The names in ascending order. -/
def names (m : NameMap α) : List String := m.entries.map (·.1)

/-- The values in ascending order of their names. -/
def values (m : NameMap α) : List α := m.entries.map (·.2)

@[ext] theorem ext {m n : NameMap α} (h : ∀ k, m.get? k = n.get? k) : m = n := by
  cases m with
  | mk as ha =>
    cases n with
    | mk bs hb =>
      obtain rfl : as = bs := ha.eq_of_lookup hb h
      rfl

@[simp] theorem get?_empty (k : String) : (empty : NameMap α).get? k = none := rfl

@[simp] theorem get?_extend (m n : NameMap α) (k : String) :
    (m.extend n).get? k = (n.get? k).or (m.get? k) :=
  lookup_overlay m.ascending n.ascending k

theorem get?_singleton (name : String) (value : α) (k : String) :
    (singleton name value).get? k = if k = name then some value else none := by
  by_cases h : k = name
  · subst h; simp [singleton, get?]
  · have hk : (k == name) = false := beq_eq_false_iff_ne.mpr h
    simp [singleton, get?, h, List.lookup_cons, hk]

theorem get?_insert (m : NameMap α) (name : String) (value : α) (k : String) :
    (m.insert name value).get? k = if k = name then some value else m.get? k := by
  rw [insert, get?_extend, get?_singleton]
  split <;> rfl

/-- A value that is there already need not be set. -/
theorem insert_of_get? {m : NameMap α} {name : String} {value : α}
    (h : m.get? name = some value) : m.insert name value = m := by
  ext k
  rw [get?_insert]
  split
  · next hk => rw [hk, h]
  · rfl

/-- Of two values that are set under one name, the second is kept. -/
theorem insert_insert (m : NameMap α) (name : String) (v w : α) :
    (m.insert name v).insert name w = m.insert name w := by
  ext k
  rw [get?_insert, get?_insert, get?_insert]
  split <;> rfl

theorem mem_entries_iff (m : NameMap α) (k : String) (v : α) :
    (k, v) ∈ m.entries ↔ m.get? k = some v :=
  ⟨lookup_eq_some_of_mem m.ascending, mem_of_lookup_eq_some⟩

theorem nodup_names (m : NameMap α) : m.names.Nodup := by
  apply List.pairwise_map.mpr
  apply m.ascending.imp
  intro e e' hlt heq
  exact String.lt_irrefl e'.1 (heq ▸ hlt)

@[simp] theorem get?_emptyCollection (k : String) : (∅ : NameMap α).get? k = none := rfl

@[simp] theorem get?_singleton_self (name : String) (value : α) :
    (singleton name value).get? name = some value := by
  rw [get?_singleton, if_pos rfl]

theorem eq_of_get?_singleton {name k : String} {value v : α}
    (h : (singleton name value).get? k = some v) : k = name := by
  rw [get?_singleton] at h
  split at h
  · assumption
  · cases h

theorem get?_foldl_insert (entries : List (String × α)) (m : NameMap α) (k : String) :
    (entries.foldl (fun m e => m.insert e.1 e.2) m).get? k =
      (entries.reverse.lookup k).or (m.get? k) := by
  induction entries generalizing m with
  | nil => rfl
  | cons e es ih =>
    rw [List.foldl_cons, ih, get?_insert, List.reverse_cons, List.lookup_append, lookup_cons]
    by_cases hk : k = e.1
    · subst hk
      simp
    · have hb : (k == e.1) = false := beq_eq_false_iff_ne.mpr hk
      simp [hk, hb]

/-- The last entry of a name is its value. -/
theorem get?_ofList (entries : List (String × α)) (k : String) :
    (ofList entries).get? k = entries.reverse.lookup k := by
  rw [ofList, get?_foldl_insert, get?_empty, Option.or_none]

theorem mem_of_get?_ofList {entries : List (String × α)} {k : String} {v : α}
    (h : (ofList entries).get? k = some v) : (k, v) ∈ entries := by
  rw [get?_ofList] at h
  exact List.mem_reverse.mp (mem_of_lookup_eq_some h)

/-- Where all entries of a name agree, their value is that of the name. -/
theorem get?_ofList_of_mem {entries : List (String × α)} {k : String} {v : α}
    (h : (k, v) ∈ entries) (hu : ∀ w, (k, w) ∈ entries → w = v) :
    (ofList entries).get? k = some v := by
  cases hg : (ofList entries).get? k with
  | some w => rw [hu w (mem_of_get?_ofList hg)]
  | none =>
    rw [get?_ofList, List.lookup_eq_none_iff] at hg
    simpa using hg (k, v) (List.mem_reverse.mpr h)

theorem contains_iff (m : NameMap α) (k : String) : m.contains k ↔ ∃ v, m.get? k = some v :=
  Option.isSome_iff_exists

theorem contains_of_get? {m : NameMap α} {k : String} {v : α} (h : m.get? k = some v) :
    m.contains k :=
  (m.contains_iff k).mpr ⟨v, h⟩

theorem contains_ofList_of_mem {entries : List (String × α)} {k : String} {v : α}
    (h : (k, v) ∈ entries) : (ofList entries).contains k := by
  rw [contains, get?_ofList, List.lookup_isSome_iff]
  exact ⟨(k, v), List.mem_reverse.mpr h, beq_self_eq_true k⟩

@[simp] theorem contains_extend (m n : NameMap α) (k : String) :
    (m.extend n).contains k = (n.contains k || m.contains k) := by
  rw [contains, get?_extend, Option.isSome_or]
  rfl

@[simp] theorem contains_singleton (name : String) (value : α) (k : String) :
    (singleton name value).contains k = (k == name) := by
  rw [contains, get?_singleton]
  by_cases h : k = name <;> simp [h]

end NameMap

end SiteVpn
