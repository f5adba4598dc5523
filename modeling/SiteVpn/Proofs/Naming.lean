import SiteVpn.Connection.Artifacts
import SiteVpn.Proofs.Numeral

/-!
# Names that determine what they name

Names are put together with hyphens, and both the names of connections and the
tokens may have hyphens of their own. They can still be taken apart from the right:
after a hyphen, no token of a kind ends another token of that kind, and numerals
have no hyphen at all. So a name determines its connection, its tunnel and what is
numbered or listed within the tunnel, whatever the connections are called.
-/

namespace SiteVpn

/-- Texts of which none, with a hyphen before it, ends another. -/
def IsSuffixFree (T : String → Prop) : Prop :=
  ∀ s t, T s → T t → ('-' :: s.toList) <:+ ('-' :: t.toList) → s = t

theorem isSuffixFree_of_no_hyphen {T : String → Prop} (h : ∀ s, T s → '-' ∉ s.toList) :
    IsSuffixFree T := by
  intro s t _ ht hst
  rcases List.suffix_cons_iff.mp hst with heq | hin
  · exact String.toList_inj.mp (List.cons.inj heq).2
  · exact absurd (hin.subset (List.mem_cons_self ..)) (h t ht)

/-- What follows the hyphen is told by the kind of text that it is. -/
theorem IsSuffixFree.append_inj {T : String → Prop} (hT : IsSuffixFree T) {a b s t : String}
    (hs : T s) (ht : T t) (h : a ++ "-" ++ s = b ++ "-" ++ t) : a = b ∧ s = t := by
  have hl : a.toList ++ '-' :: s.toList = b.toList ++ '-' :: t.toList := by
    simpa using congrArg String.toList h
  have hst : s = t := by
    rcases List.suffix_or_suffix_of_suffix ⟨a.toList, hl⟩ ⟨b.toList, rfl⟩ with hsuf | hsuf
    · exact hT s t hs ht hsuf
    · exact (hT t s ht hs hsuf).symm
  subst hst
  exact ⟨String.toList_inj.mp (List.append_cancel_right hl), rfl⟩

/-- Whether the table of a kind of algorithm lists a token. -/
def Vocabulary.Lists (α : Type) [Vocabulary α] (token : String) : Prop :=
  token ∈ (tokens : List (String × α)).map (·.1)

instance {α : Type} [Vocabulary α] (token : String) : Decidable (Vocabulary.Lists α token) :=
  inferInstanceAs (Decidable (token ∈ (Vocabulary.tokens : List (String × α)).map (·.1)))

theorem Vocabulary.lists_of_ofToken {α : Type} [Vocabulary α] {token : String} {a : α}
    (h : ofToken α token = .ok a) : Lists α token := by
  unfold ofToken at h
  cases hl : (tokens : List (String × α)).lookup token with
  | none => simp [hl] at h
  | some b =>
      obtain ⟨before, after, htable, -⟩ := List.lookup_eq_some_iff.mp hl
      simp [Lists, htable]

/-- Whether a table is suffix-free is told by its entries. -/
theorem Vocabulary.isSuffixFree_lists {α : Type} [Vocabulary α]
    (h : ∀ s ∈ (tokens : List (String × α)).map (·.1),
      ∀ t ∈ (tokens : List (String × α)).map (·.1),
        ('-' :: s.toList) <:+ ('-' :: t.toList) → s = t) : IsSuffixFree (Lists α) := by
  intro s t hs ht
  exact h s hs t ht

theorem isSuffixFree_encryption : IsSuffixFree (Vocabulary.Lists EncryptionAlgorithm) := by
  apply Vocabulary.isSuffixFree_lists
  decide

theorem isSuffixFree_hashing : IsSuffixFree (Vocabulary.Lists IkeHashingAlgorithm) := by
  apply Vocabulary.isSuffixFree_lists
  decide

theorem isSuffixFree_group : IsSuffixFree (Vocabulary.Lists DiffieHellmanGroup) := by
  apply Vocabulary.isSuffixFree_lists
  decide

theorem isSuffixFree_numeral : IsSuffixFree fun s => ∃ n, s = Decimal.write n := by
  apply isSuffixFree_of_no_hyphen
  rintro s ⟨n, rfl⟩
  rw [Decimal.toList_write]
  exact Decimal.hyphen_not_mem_digits n

/-- A numbered name determines the name and the number. -/
theorem numberedName_inj {x y : String} {m n : Nat}
    (h : numberedName x m = numberedName y n) : x = y ∧ m = n := by
  obtain ⟨hxy, hmn⟩ := isSuffixFree_numeral.append_inj ⟨m, rfl⟩ ⟨n, rfl⟩ h
  exact ⟨hxy, Decimal.write_injective hmn⟩

namespace Tunnel

/-- Tokens that the tables of their kinds list. -/
structure Phase1Tokens.Known (c : Phase1Tokens) : Prop where
  group : Vocabulary.Lists DiffieHellmanGroup c.group
  encryption : Vocabulary.Lists EncryptionAlgorithm c.encryption
  integrity : Vocabulary.Lists IkeHashingAlgorithm c.integrity

/-- The name of a phase 1 proposal determines the tunnel and the tokens. -/
theorem phase1Name_inj {x y : String} {c c' : Phase1Tokens} (hc : c.Known) (hc' : c'.Known)
    (h : phase1Name x c = phase1Name y c') : x = y ∧ c = c' := by
  obtain ⟨h, hi⟩ := isSuffixFree_hashing.append_inj hc.integrity hc'.integrity h
  obtain ⟨h, he⟩ := isSuffixFree_encryption.append_inj hc.encryption hc'.encryption h
  obtain ⟨hxy, hg⟩ := isSuffixFree_group.append_inj hc.group hc'.group h
  cases c
  cases c'
  exact ⟨hxy, Phase1Tokens.mk.injEq .. ▸ ⟨hg, hi, he⟩⟩

theorem externalName_inj {x y : String} (h : externalName x = externalName y) : x = y :=
  (String.append_right_inj _).mp h

theorem internalName_inj {x y : String} (h : internalName x = internalName y) : x = y :=
  (String.append_right_inj _).mp h

/-- The two interfaces of tunnels are told apart by how their names start. -/
theorem externalName_ne_internalName (x y : String) : externalName x ≠ internalName y := by
  intro h
  have hhead := congrArg (fun name => name.toList.head?) h
  simp [externalName, internalName] at hhead

theorem peerName_inj {x y : String} (h : peerName x = peerName y) : x = y :=
  (String.append_left_inj _).mp h

end Tunnel

end SiteVpn
