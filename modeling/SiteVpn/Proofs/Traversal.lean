import Mathlib.Data.List.Forall2
import Mathlib.Data.List.TakeDrop

/-!
# Steps that may fail, one after another

A list is read element by element, and the first failure is the failure of the
whole. It succeeds with exactly the results of its elements, in their order. Steps that
agree up to a map, each with the same failures, make up traversals that do. Failures alone
are searched for as the first value among the elements of a list, and a run of elements that
pass a test is split off where it ends.
-/

namespace SiteVpn

variable {ε α β γ δ : Type}

theorem bind_eq_ok {x : Except ε α} {f : α → Except ε β} {b : β} :
    (x >>= f) = .ok b ↔ ∃ a, x = .ok a ∧ f a = .ok b := by
  cases x with
  | error e => simp [bind, Except.bind]
  | ok a => simp [bind, Except.bind]

/-- Where a step ends as it should, and there is a way in which it should end, it ends in no
other way. -/
theorem eq_iff_of_outcome {x : Except ε α} {result : α → Prop} {failure : ε → Prop}
    (hresult : ∀ a, result a → x = .ok a) (hfailure : ∀ e, failure e → x = .error e)
    (h : (∃ a, result a) ∨ ∃ e, failure e) :
    (∀ a, x = .ok a ↔ result a) ∧ ∀ e, x = .error e ↔ failure e := by
  rcases h with ⟨b, hb⟩ | ⟨d, hd⟩
  · obtain rfl := hresult b hb
    refine ⟨fun a => ⟨fun h => Except.ok.inj h ▸ hb, hresult a⟩, fun e => ⟨?_, hfailure e⟩⟩
    exact fun h => by cases h
  · obtain rfl := hfailure d hd
    refine ⟨fun a => ⟨?_, hresult a⟩, fun e => ⟨fun h => Except.error.inj h ▸ hd, hfailure e⟩⟩
    exact fun h => by cases h

/-- A list is read when every element of it is, each to its own result. -/
theorem mapM_eq_ok {f : α → Except ε β} {xs : List α} {ys : List β} :
    xs.mapM f = .ok ys ↔ xs.map f = ys.map .ok := by
  induction xs generalizing ys with
  | nil => cases ys <;> simp [pure, Except.pure]
  | cons x xs ih =>
      rw [List.mapM_cons, bind_eq_ok]
      constructor
      · rintro ⟨y, hy, h⟩
        obtain ⟨zs, hzs, h⟩ := bind_eq_ok.mp h
        obtain rfl : y :: zs = ys := Except.ok.inj h
        rw [List.map_cons, List.map_cons, hy, ih.mp hzs]
      · intro h
        cases ys with
        | nil => simp at h
        | cons y zs =>
            obtain ⟨hy, hzs⟩ := List.cons.inj h
            exact ⟨y, hy, bind_eq_ok.mpr ⟨zs, ih.mpr hzs, rfl⟩⟩

theorem length_of_mapM {f : α → Except ε β} {xs : List α} {ys : List β}
    (h : xs.mapM f = .ok ys) : ys.length = xs.length := by
  have hlength := congrArg List.length (mapM_eq_ok.mp h)
  rw [List.length_map, List.length_map] at hlength
  exact hlength.symm

/-- What the elements determine of their results can be read off before. -/
theorem map_of_mapM {f : α → Except ε β} {g : β → γ} {k : α → γ} {xs : List α} {ys : List β}
    (h : xs.mapM f = .ok ys) (hfg : ∀ x y, f x = .ok y → g y = k x) :
    ys.map g = xs.map k := by
  induction xs generalizing ys with
  | nil =>
      obtain rfl : [] = ys := Except.ok.inj h
      rfl
  | cons x xs ih =>
      rw [List.mapM_cons] at h
      obtain ⟨y, hy, h⟩ := bind_eq_ok.mp h
      obtain ⟨zs, hzs, h⟩ := bind_eq_ok.mp h
      obtain rfl : y :: zs = ys := Except.ok.inj h
      rw [List.map_cons, List.map_cons, hfg x y hy, ih hzs]

theorem getElem?_of_mapM {f : α → Except ε β} {xs : List α} {ys : List β}
    (h : xs.mapM f = .ok ys) {i : Nat} {x : α} (hx : xs[i]? = some x) :
    ∃ y, ys[i]? = some y ∧ f x = .ok y := by
  have hi : (xs.map f)[i]? = (ys.map Except.ok)[i]? := by rw [mapM_eq_ok.mp h]
  rw [List.getElem?_map, List.getElem?_map, hx] at hi
  cases hy : ys[i]? with
  | none => simp [hy] at hi
  | some y => exact ⟨y, rfl, by simpa [hy] using hi⟩

theorem exists_getElem?_of_mapM {f : α → Except ε β} {xs : List α} {ys : List β}
    (h : xs.mapM f = .ok ys) {i : Nat} {y : β} (hy : ys[i]? = some y) :
    ∃ x, xs[i]? = some x ∧ f x = .ok y := by
  have hi : (xs.map f)[i]? = (ys.map Except.ok)[i]? := by rw [mapM_eq_ok.mp h]
  rw [List.getElem?_map, List.getElem?_map, hy] at hi
  exact Option.map_eq_some_iff.mp hi

/-- A list is read when there is a result at every place, that of the element there. -/
theorem mapM_eq_ok_iff_getElem? {f : α → Except ε β} {xs : List α} {ys : List β} :
    xs.mapM f = .ok ys ↔ ys.length = xs.length ∧
      ∀ (n : Nat) x, xs[n]? = some x → ∃ y, ys[n]? = some y ∧ f x = .ok y := by
  constructor
  · intro h
    exact ⟨length_of_mapM h, fun _ _ => getElem?_of_mapM h⟩
  · rintro ⟨hlength, h⟩
    apply mapM_eq_ok.mpr
    apply List.ext_getElem?
    intro n
    rw [List.getElem?_map, List.getElem?_map]
    cases hx : xs[n]? with
    | some x =>
        obtain ⟨y, hy, hf⟩ := h n x hx
        rw [hy, Option.map_some, Option.map_some, hf]
    | none =>
        have hn : ys[n]? = none := by
          rw [List.getElem?_eq_none_iff] at hx ⊢
          omega
        rw [hn]
        rfl

theorem exists_of_mem_mapM {f : α → Except ε β} {xs : List α} {ys : List β}
    (h : xs.mapM f = .ok ys) {y : β} (hy : y ∈ ys) : ∃ x ∈ xs, f x = .ok y := by
  have hm : Except.ok y ∈ xs.map f := by
    rw [mapM_eq_ok.mp h]
    exact List.mem_map_of_mem hy
  exact List.mem_map.mp hm

theorem map_eq_ok {x : Except ε α} {k : α → β} {b : β} :
    x.map k = .ok b ↔ ∃ a, x = .ok a ∧ k a = b := by
  cases x <;> simp [Except.map]

/-- What is made of every result may be made at the end. -/
theorem map_mapM (f : α → Except ε β) (k : β → γ) (xs : List α) :
    (xs.mapM f).map (List.map k) = xs.mapM fun x => (f x).map k := by
  induction xs with
  | nil => rfl
  | cons x xs ih =>
      rw [List.mapM_cons, List.mapM_cons, ← ih]
      cases f x with
      | error e => rfl
      | ok y => cases xs.mapM f <;> rfl

/-- Steps that agree up to a map give results that agree, as long as what follows sees no
more of them. -/
theorem map_bind_congr {x y : Except ε α} {f g : α → Except ε β} {k : α → δ} {h : β → γ}
    (hxy : x.map k = y.map k) (hfg : ∀ a b, k a = k b → (f a).map h = (g b).map h) :
    (x >>= f).map h = (y >>= g).map h := by
  cases x with
  | error e =>
      cases y with
      | error e' =>
          obtain rfl := Except.error.inj hxy
          rfl
      | ok b => cases hxy
  | ok a =>
      cases y with
      | error e' => cases hxy
      | ok b => exact hfg a b (Except.ok.inj hxy)

theorem map_bind_congr_right {x : Except ε α} {f g : α → Except ε β} {h : β → γ}
    (hfg : ∀ a, (f a).map h = (g a).map h) : (x >>= f).map h = (x >>= g).map h := by
  cases x with
  | error e => rfl
  | ok a => exact hfg a

theorem map_mapM_congr {f g : α → Except ε β} {h : β → γ}
    (hfg : ∀ x, (f x).map h = (g x).map h) (xs : List α) :
    (xs.mapM f).map (List.map h) = (xs.mapM g).map (List.map h) := by
  induction xs with
  | nil => rfl
  | cons x xs ih =>
      rw [List.mapM_cons, List.mapM_cons]
      apply map_bind_congr (hfg x)
      intro b b' hb
      apply map_bind_congr ih
      intro bs bs' hbs
      simp [pure, Except.pure, Except.map, hb, hbs]

/-- What is made of two results is the same where it is the same of all that agree as they
do. -/
theorem bind_congr_of_map {x y : Except ε α} {f g : α → Except ε β} {k : α → δ}
    (hxy : x.map k = y.map k) (hfg : ∀ a b, k a = k b → f a = g b) :
    (x >>= f) = y >>= g := by
  have h : (x >>= f).map id = (y >>= g).map id := by
    apply map_bind_congr hxy
    intro a b hab
    rw [hfg a b hab]
  rwa [Except.map_id, id_eq, id_eq] at h

/-- What every later step does to a result can be done at the end. -/
theorem bind_eq_map_bind {x : Except ε α} {f : α → Except ε β} {g : α → Except ε γ}
    {h : γ → β} (hfg : ∀ a, f a = (g a).map h) : (x >>= f) = (x >>= g).map h := by
  cases x with
  | error e => rfl
  | ok a => exact hfg a

theorem mapM_congr_of_map {f : α → Except ε β} {k : α → δ} {xs ys : List α}
    (hxy : xs.map k = ys.map k) (hf : ∀ x y, k x = k y → f x = f y) :
    xs.mapM f = ys.mapM f := by
  induction xs generalizing ys with
  | nil =>
      obtain rfl := List.map_eq_nil_iff.mp hxy.symm
      rfl
  | cons x xs ih =>
      cases ys with
      | nil => cases hxy
      | cons y ys =>
          obtain ⟨hx, hxs⟩ := List.cons.inj hxy
          rw [List.mapM_cons, List.mapM_cons, hf x y hx, ih hxs]

/-- The same of steps that agree up to a map themselves. -/
theorem map_mapM_congr_of_map {f : α → Except ε β} {h : β → γ} {k : α → δ} {xs ys : List α}
    (hxy : xs.map k = ys.map k) (hf : ∀ x y, k x = k y → (f x).map h = (f y).map h) :
    (xs.mapM f).map (List.map h) = (ys.mapM f).map (List.map h) := by
  induction xs generalizing ys with
  | nil =>
      obtain rfl := List.map_eq_nil_iff.mp hxy.symm
      rfl
  | cons x xs ih =>
      cases ys with
      | nil => cases hxy
      | cons y ys =>
          obtain ⟨hx, hxs⟩ := List.cons.inj hxy
          rw [List.mapM_cons, List.mapM_cons]
          apply map_bind_congr (hf x y hx)
          intro b b' hb
          apply map_bind_congr (ih hxs)
          intro bs bs' hbs
          simp [pure, Except.pure, Except.map, hb, hbs]

/-- The failure of a result that is one. -/
def failure? : Except ε α → Option ε
  | .error e => some e
  | .ok _ => none

theorem failure?_eq_some_iff {x : Except ε α} {e : ε} : failure? x = some e ↔ x = .error e := by
  cases x <;> simp [failure?]

theorem failure?_eq_none_iff {x : Except ε α} : failure? x = none ↔ ∃ a, x = .ok a := by
  cases x <;> simp [failure?]

/-- Where the failure is the first of a list, there is none if the list is empty. -/
theorem eq_nil_iff_of_failure? {x : Except ε α} {errors : List ε}
    (h : failure? x = errors.head?) : errors = [] ↔ ∃ a, x = .ok a := by
  rw [← failure?_eq_none_iff, h, List.head?_eq_none_iff]

/-- Of two steps the first that fails is the failure of both, as long as the second fails in
one way after all that the first can give. -/
theorem failure?_bind_of_ok {x : Except ε α} {f : α → Except ε β} {o : Option ε}
    (h : ∀ a, x = .ok a → failure? (f a) = o) : failure? (x >>= f) = (failure? x).or o := by
  cases x with
  | error e => rfl
  | ok a => exact h a rfl

/-- So it is where the result of the first does not decide how the second fails. -/
theorem failure?_bind {x : Except ε α} {f : α → Except ε β} {o : Option ε}
    (h : ∀ a, failure? (f a) = o) : failure? (x >>= f) = (failure? x).or o :=
  failure?_bind_of_ok fun a _ => h a

theorem failure?_mapM (f : α → Except ε β) (xs : List α) :
    failure? (xs.mapM f) = xs.findSome? fun x => failure? (f x) := by
  induction xs with
  | nil => rfl
  | cons x xs ih =>
      have hrest : ∀ y, failure? (xs.mapM f >>= fun ys => pure (y :: ys)) =
          xs.findSome? fun x => failure? (f x) := by
        intro y
        rw [failure?_bind (o := none) fun _ => rfl, ih, Option.or_none]
      rw [List.mapM_cons, failure?_bind hrest, List.findSome?_cons]
      cases failure? (f x) <;> rfl

/-- Where every element may have failures of its own, the first of them all is the failure. -/
theorem failure?_mapM_flatMap {f : α → Except ε β} {errors : α → List ε}
    (h : ∀ x, failure? (f x) = (errors x).head?) (xs : List α) :
    failure? (xs.mapM f) = (xs.flatMap errors).head? := by
  rw [failure?_mapM, List.head?_flatMap]
  simp only [h]

section FindSome

variable {f : α → Option ε} {g : β → Option ε} {h : γ → Option ε} {o : Option ε}

theorem findSome?_flatMap (xs : List β) (k : β → List α) :
    (xs.flatMap k).findSome? f = xs.findSome? fun x => (k x).findSome? f := by
  induction xs with
  | nil => rfl
  | cons x xs ih =>
      rw [List.flatMap_cons, List.findSome?_append, ih, List.findSome?_cons]
      cases (k x).findSome? f <;> rfl

/-- What comes before every element of a list counts before the first one only. -/
theorem findSome?_or_left {xs : List α} (hxs : xs ≠ []) :
    (xs.findSome? fun x => o.or (f x)) = o.or (xs.findSome? f) := by
  cases o with
  | none => simp
  | some e =>
      obtain ⟨x, xs, rfl⟩ := List.exists_cons_of_ne_nil hxs
      rfl

/-- What comes after every element of a list counts after the first one only. -/
theorem findSome?_or_right (x : α) (xs : List α) :
    ((x :: xs).findSome? fun x => (f x).or o) = (f x).or (o.or (xs.findSome? f)) := by
  rw [List.findSome?_cons]
  cases f x with
  | some e => rfl
  | none =>
      cases o with
      | none => simp
      | some e => rfl

/-- Among pairs, the first element comes first, then all of the second list, and then the
others of the first list. -/
theorem findSome?_pairs (x : α) (xs : List α) {ys : List β} (hys : ys ≠ []) :
    ((x :: xs).findSome? fun x => ys.findSome? fun y => (f x).or (g y)) =
      (f x).or ((ys.findSome? g).or (xs.findSome? f)) := by
  simp only [findSome?_or_left hys]
  exact findSome?_or_right x xs

/-- Among triples that read their last element before their middle one, the elements of
the first triple come first, and then the others of each list, the last list first. -/
theorem findSome?_triples (x : α) (xs : List α) (y : β) (ys : List β) (z : γ) (zs : List γ) :
    ((x :: xs).findSome? fun x => (y :: ys).findSome? fun y => (z :: zs).findSome? fun z =>
        (f x).or ((h z).or (g y))) =
      (f x).or ((h z).or ((g y).or
        ((zs.findSome? h).or ((ys.findSome? g).or (xs.findSome? f))))) := by
  have hinner : ((y :: ys).findSome? fun y => (z :: zs).findSome? fun z => (h z).or (g y)) =
      (h z).or ((g y).or ((zs.findSome? h).or (ys.findSome? g))) := by
    simp only [findSome?_or_right]
    rw [findSome?_or_left (List.cons_ne_nil y ys), findSome?_or_right]
  calc
    _ = (x :: xs).findSome? fun x => (f x).or
          ((y :: ys).findSome? fun y => (z :: zs).findSome? fun z => (h z).or (g y)) := by
        simp only [findSome?_or_left (List.cons_ne_nil z zs),
          findSome?_or_left (List.cons_ne_nil y ys)]
    _ = (f x).or (((h z).or ((g y).or ((zs.findSome? h).or (ys.findSome? g)))).or
          (xs.findSome? f)) := by
        rw [findSome?_or_right, hinner]
    _ = _ := by simp only [Option.or_assoc]

end FindSome

section LastOfEach

variable {α κ : Type} [DecidableEq κ] {key : α → κ}

/-- The elements of which no later one has the same key. -/
def lastOfEach (key : α → κ) : List α → List α
  | [] => []
  | x :: xs => if key x ∈ xs.map key then lastOfEach key xs else x :: lastOfEach key xs

theorem lastOfEach_sublist (key : α → κ) (xs : List α) : (lastOfEach key xs).Sublist xs := by
  induction xs with
  | nil => exact .refl []
  | cons x xs ih =>
      rw [lastOfEach]
      split
      · exact ih.cons x
      · exact ih.cons_cons x

/-- Every key is kept. -/
theorem mem_keys_lastOfEach {xs : List α} {k : κ} :
    k ∈ (lastOfEach key xs).map key ↔ k ∈ xs.map key := by
  induction xs with
  | nil => rfl
  | cons x xs ih =>
      rw [lastOfEach, List.map_cons, List.mem_cons]
      split
      · next h =>
          rw [ih, iff_or_self]
          rintro rfl
          exact h
      · rw [List.map_cons, List.mem_cons, ih]

/-- No key is kept twice. -/
theorem nodup_keys_lastOfEach (key : α → κ) (xs : List α) :
    ((lastOfEach key xs).map key).Nodup := by
  induction xs with
  | nil => exact List.nodup_nil
  | cons x xs ih =>
      rw [lastOfEach]
      split
      · exact ih
      · next h =>
          rw [List.map_cons, List.nodup_cons, mem_keys_lastOfEach]
          exact ⟨h, ih⟩

/-- Where no key is repeated, every element is kept. -/
theorem lastOfEach_of_nodup {xs : List α} (h : (xs.map key).Nodup) : lastOfEach key xs = xs := by
  induction xs with
  | nil => rfl
  | cons x xs ih =>
      obtain ⟨hx, hxs⟩ := List.nodup_cons.mp h
      rw [lastOfEach, if_neg hx, ih hxs]

end LastOfEach

theorem exists_of_mem_forall₂ {α β : Type} {R : α → β → Prop} {xs : List α} {ys : List β}
    (h : List.Forall₂ R xs ys) {y : β} (hy : y ∈ ys) : ∃ x ∈ xs, R x y := by
  induction h with
  | nil => cases hy
  | cons hR _ ih =>
      rcases List.mem_cons.mp hy with rfl | hy
      · exact ⟨_, List.mem_cons_self .., hR⟩
      · obtain ⟨x, hx, hxy⟩ := ih hy
        exact ⟨x, List.mem_cons_of_mem _ hx, hxy⟩

/-- A run of elements that pass a test ends where another one does not follow. -/
theorem span_append {p : α → Bool} {xs rest : List α} (hxs : ∀ x ∈ xs, p x)
    (hrest : ∀ x ∈ rest.head?, ¬ p x) : (xs ++ rest).span p = (xs, rest) := by
  have hempty : rest.takeWhile p = [] ∧ rest.dropWhile p = rest := by
    cases rest with
    | nil => exact ⟨rfl, rfl⟩
    | cons x rest => simp [hrest x rfl]
  rw [List.span_eq_takeWhile_dropWhile, List.takeWhile_append_of_pos hxs,
    List.dropWhile_append_of_pos hxs, hempty.1, hempty.2, List.append_nil]

end SiteVpn
