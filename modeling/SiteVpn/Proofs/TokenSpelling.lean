import Mathlib.Algebra.Group.Int.Defs
import SiteVpn.Connection.Form
import SiteVpn.Proofs.Numeral
import SiteVpn.Proofs.RecordShape
import SiteVpn.Proofs.Traversal

/-!
# How tokens are spelled

An entry of a list of tokens has a value that is a text, or an integer that stands for its
decimal text, or null for the empty token, which is also that of an entry without a value. The
seven lists of a tunnel's options are each read entry by entry, and a list that is not given is
the default of its kind. Since an integer and its text spell one token, options in which some
entries are spelled the other way are the same options, or are refused with them.

## Implementation notes

The names and the shapes of records are those of `Json.IsRecord`, so an entry or the options may
be an object or an array of the fields. A number with a fraction or an exponent is no integer,
nor is `-0`.
-/

namespace SiteVpn

open Json (Gives IsRecord Fieldwise MemberRelated defaultedFields)

namespace TokenEntry

/-- The name of the only field of an entry. -/
def fieldNames : List String := ["Value"]

/-- Whether a value spells a token. -/
inductive ValueSpells : Json → String → Prop
  | null : ValueSpells .null ""
  | string (s : String) : ValueSpells (.string s) s
  | integer {n : Int} (h : -2 ^ 63 ≤ n ∧ n < 2 ^ 63) : ValueSpells (.integer n) (toString n)

/-- Whether an entry spells a token: by its value, or without one. -/
inductive Spells (e : Json) : String → Prop
  | omitted (hshape : IsRecord fieldNames e) (h : ∀ v, ¬ Gives fieldNames e "Value" v) :
      Spells e ""
  | given {v : Json} {token : String} (hshape : IsRecord fieldNames e)
      (h : Gives fieldNames e "Value" v) (hv : ValueSpells v token) : Spells e token

/-- Whether a value is a number that spells no token. -/
inductive IsStrayNumber : Json → Prop
  | decimal (literal : String) : IsStrayNumber (.decimal literal)
  | integer {n : Int} (h : ¬ (-2 ^ 63 ≤ n ∧ n < 2 ^ 63)) : IsStrayNumber (.integer n)

/-- Whether one value is an integer that spells a token, and the other one is its text. -/
def SpelledOut (v v' : Json) : Prop :=
  ∃ n : Int, (-2 ^ 63 ≤ n ∧ n < 2 ^ 63) ∧ v = .integer n ∧ v' = .string (toString n)

/-- Whether an entry is another one, whose integer may be spelled out. -/
def Respelled (e e' : Json) : Prop :=
  Fieldwise fieldNames (fun _ v v' => v' = v ∨ SpelledOut v v') e e'

variable {v v' e e' : Json} {token : String}

theorem tokenOf?_eq_some_iff : tokenOf? v = some token ↔ ValueSpells v token := by
  constructor
  · intro h
    cases v with
    | null =>
        obtain rfl := Option.some.inj h
        exact .null
    | string s =>
        obtain rfl := Option.some.inj h
        exact .string s
    | integer n =>
        rw [tokenOf?] at h
        split at h
        · next hn =>
            obtain rfl := Option.some.inj h
            rw [Decimal.writeInt_eq_toString]
            exact .integer hn
        · cases h
    | _ => cases h
  · rintro (_ | s | hn)
    · rfl
    · rfl
    · next n =>
        have htoken : tokenOf? (.integer n) = some (Decimal.writeInt n) := if_pos hn
        rw [htoken, Decimal.writeInt_eq_toString]

theorem tokenOf?_of_spelledOut (h : SpelledOut v v') : tokenOf? v' = tokenOf? v := by
  obtain ⟨n, hn, rfl, rfl⟩ := h
  rw [tokenOf?_eq_some_iff.mpr (.integer hn)]
  rfl

theorem not_valueSpells_of_isStrayNumber (h : IsStrayNumber v) : ¬ ValueSpells v token := by
  rintro (_ | _ | hn)
  · cases h
  · cases h
  · cases h with
    | integer h => exact h hn

theorem not_spells_of_isStrayNumber (h : Gives fieldNames e "Value" v) (hv : IsStrayNumber v) :
    ¬ Spells e token := by
  rintro (⟨-, hnone⟩ | ⟨hshape, h', hspells⟩)
  · exact hnone v h
  · obtain rfl := hshape.eq_of_gives (by decide) (by decide) h h'
    exact not_valueSpells_of_isStrayNumber hv hspells

/-- An entry is read as the token that it spells. -/
theorem ofJson?_eq_some_iff {t : TokenEntry} : ofJson? e = some t ↔ Spells e t.token := by
  change (e.record? (defaultedFields fieldNames)).bind _ = some t ↔ _
  rw [Option.bind_eq_some_iff]
  have hnames : fieldNames.Nodup := by decide
  have hname : "Value" ∈ fieldNames := by decide
  constructor
  · rintro ⟨given, hgiven, ht⟩
    have hshape := (Json.record?_eq_some_iff.mp hgiven).1
    cases hv : given.lookup "Value" with
    | none =>
        rw [hv] at ht
        obtain rfl := Option.some.inj ht
        exact .omitted hshape ((Json.lookup_eq_none_iff_gives hnames hname hgiven).mp hv)
    | some v =>
        rw [hv] at ht
        obtain ⟨token, htoken, ht⟩ := Option.bind_eq_some_iff.mp ht
        obtain rfl := Option.some.inj ht
        exact .given hshape ((Json.lookup_eq_some_iff_gives hnames hname hgiven).mp hv)
          (tokenOf?_eq_some_iff.mp htoken)
  · obtain ⟨token⟩ := t
    rintro (⟨hshape, h⟩ | ⟨hshape, h, hv⟩)
    · have hgiven := Json.record?_eq_some_iff.mpr ⟨hshape, rfl⟩
      refine ⟨_, hgiven, ?_⟩
      rw [(Json.lookup_eq_none_iff_gives hnames hname hgiven).mpr h]
      rfl
    · have hgiven := Json.record?_eq_some_iff.mpr ⟨hshape, rfl⟩
      refine ⟨_, hgiven, ?_⟩
      rw [(Json.lookup_eq_some_iff_gives hnames hname hgiven).mpr h]
      change (tokenOf? _).bind _ = _
      rw [tokenOf?_eq_some_iff.mpr hv]
      rfl

/-- An integer that is spelled out does not show in an entry. -/
theorem ofJson?_of_respelled (h : Respelled e e') :
    (ofJson? e' : Option TokenEntry) = ofJson? e := by
  refine Json.bind_record?_of_fieldwise (fun _ _ => .inl rfl) ?_ h
  intro given given' hgiven
  have hlookup := Json.lookup_of_related hgiven "Value"
  generalize given.lookup "Value" = v? at hlookup
  generalize given'.lookup "Value" = v'? at hlookup
  cases hlookup with
  | none => rfl
  | some hv =>
      rcases hv with rfl | hv
      · rfl
      · change (tokenOf? _).bind _ = (tokenOf? _).bind _
        rw [tokenOf?_of_spelledOut hv]

end TokenEntry

namespace TunnelOptions

/-- A list of tokens among the options. -/
structure TokenList where
  name : String
  default : List TokenEntry
  entries : TunnelOptions → List TokenEntry

/-- The lists of tokens. -/
def tokenLists : List TokenList :=
  [⟨"IkeVersions", allIkeVersions, ikeVersions⟩,
    ⟨"Phase1EncryptionAlgorithms", allEncryption, phase1Encryption⟩,
    ⟨"Phase1IntegrityAlgorithms", allIntegrity, phase1Integrity⟩,
    ⟨"Phase1DHGroupNumbers", allPhase1Groups, phase1Groups⟩,
    ⟨"Phase2EncryptionAlgorithms", allEncryption, phase2Encryption⟩,
    ⟨"Phase2IntegrityAlgorithms", allIntegrity, phase2Integrity⟩,
    ⟨"Phase2DHGroupNumbers", allPhase2Groups, phase2Groups⟩]

/-- The names of the lists of tokens. -/
def listNames : List String := tokenLists.map (·.name)

/-- The names of the fields of the options, in their order. -/
def fieldNames : List String :=
  listNames ++ ["OutsideIpAddress", "TunnelInsideCidr", "PreSharedKey", "Phase1LifetimeSeconds",
    "Phase2LifetimeSeconds"]

theorem nodup_fieldNames : fieldNames.Nodup := by decide

/-- Whether some entries are those of a list that options have: its default if the options do not
give it, and else the tokens that the items of the given array spell, one for each in their
order. -/
inductive Lists (j : Json) (l : TokenList) : List TokenEntry → Prop
  | omitted (h : ∀ v, ¬ Gives fieldNames j l.name v) : Lists j l l.default
  | given {items : List Json} {entries : List TokenEntry}
      (h : Gives fieldNames j l.name (.array items))
      (hentries : List.Forall₂ (fun e t => TokenEntry.Spells e t.token) items entries) :
      Lists j l entries

/-- Whether a value is that of a field other than the lists, which is missing where it is not
given. -/
inductive Has {α : Type} [JsonForm α] (j : Json) (name : String) : Option α → Prop
  | omitted (h : ∀ v, ¬ Gives fieldNames j name v) : Has j name none
  | given {v : Json} {a : Option α} (h : Gives fieldNames j name v) (ha : ofJson? v = some a) :
      Has j name a

/-- Whether options are those that a value describes. -/
structure Describes (j : Json) (o : TunnelOptions) : Prop where
  shape : IsRecord fieldNames j
  lists : ∀ l ∈ tokenLists, Lists j l (l.entries o)
  outsideAddress : Has j "OutsideIpAddress" o.outsideAddress
  insideBlock : Has j "TunnelInsideCidr" o.insideBlock
  preSharedKey : Has j "PreSharedKey" o.preSharedKey
  phase1Lifetime : Has j "Phase1LifetimeSeconds" o.phase1Lifetime
  phase2Lifetime : Has j "Phase2LifetimeSeconds" o.phase2Lifetime

/-- Whether two values are arrays with the same entries, of which integers may be spelled out. -/
def ListRespelled (v v' : Json) : Prop :=
  ∃ items items', v = .array items ∧ v' = .array items' ∧
    List.Forall₂ TokenEntry.Respelled items items'

/-- Whether options are other ones, in whose lists entries may be spelled out. -/
def Respelled (j j' : Json) : Prop :=
  Fieldwise fieldNames (fun name v v' => v' = v ∨ name ∈ listNames ∧ ListRespelled v v') j j'

variable {j j' : Json} {o : TunnelOptions}

theorem list?_eq_some_iff {items : List Json} {entries : List TokenEntry} :
    Json.list? items = some entries ↔
      List.Forall₂ (fun e t => TokenEntry.Spells e t.token) items entries := by
  induction items generalizing entries with
  | nil => simp [Json.list?, eq_comm]
  | cons e items ih =>
      simp only [Json.list?, Option.bind_eq_bind, Option.bind_eq_some_iff, ih,
        TokenEntry.ofJson?_eq_some_iff]
      constructor
      · rintro ⟨t, ht, ts, hts, h⟩
        obtain rfl := Option.some.inj h
        exact .cons ht hts
      · rintro (_ | ⟨ht, hts⟩)
        exact ⟨_, ht, _, hts, rfl⟩

theorem list?_of_respelled {items items' : List Json}
    (h : List.Forall₂ TokenEntry.Respelled items items') :
    (Json.list? items' : Option (List TokenEntry)) = Json.list? items := by
  induction h with
  | nil => rfl
  | cons he _ ih => rw [Json.list?, Json.list?, TokenEntry.ofJson?_of_respelled he, ih]

/-- A list is read from an array, entry by entry. -/
theorem ofJson?_list_eq_some_iff {v : Json} {entries : List TokenEntry} :
    ofJson? v = some entries ↔ ∃ items, v = .array items ∧
      List.Forall₂ (fun e t => TokenEntry.Spells e t.token) items entries := by
  cases v with
  | array items =>
      change Json.list? items = some entries ↔ _
      rw [list?_eq_some_iff]
      constructor
      · exact fun h => ⟨items, rfl, h⟩
      · rintro ⟨_, ⟨⟩, h⟩
        exact h
  | _ =>
      constructor
      · intro h
        cases h
      · rintro ⟨_, h, -⟩
        cases h

section Fields

variable {given : List (String × Json)} (h : j.record? (defaultedFields fieldNames) = some given)

include h

theorem orDefault_list_eq_some_iff {l : TokenList} (hl : l ∈ tokenLists)
    {entries : List TokenEntry} :
    Json.orDefault given l.name l.default = some entries ↔ Lists j l entries := by
  have hname : l.name ∈ fieldNames := List.mem_append_left _ (List.mem_map_of_mem hl)
  rw [Json.orDefault_eq_some_iff nodup_fieldNames hname h]
  constructor
  · rintro (⟨homitted, rfl⟩ | ⟨v, hv, hread⟩)
    · exact .omitted homitted
    · obtain ⟨items, rfl, hentries⟩ := ofJson?_list_eq_some_iff.mp hread
      exact .given hv hentries
  · rintro (homitted | ⟨hv, hentries⟩)
    · exact .inl ⟨homitted, rfl⟩
    · exact .inr ⟨_, hv, ofJson?_list_eq_some_iff.mpr ⟨_, rfl, hentries⟩⟩

theorem orDefault_none_eq_some_iff {α : Type} [JsonForm α] {name : String}
    (hname : name ∈ fieldNames) {a : Option α} :
    Json.orDefault given name none = some a ↔ Has j name a := by
  rw [Json.orDefault_eq_some_iff nodup_fieldNames hname h]
  constructor
  · rintro (⟨homitted, rfl⟩ | ⟨v, hv, hread⟩)
    · exact .omitted homitted
    · exact .given hv hread
  · rintro (homitted | ⟨hv, hread⟩)
    · exact .inl ⟨homitted, rfl⟩
    · exact .inr ⟨_, hv, hread⟩

end Fields

/-- Options are read from what describes them, and from nothing else. -/
theorem ofJson?_eq_some_iff : ofJson? j = some o ↔ Describes j o := by
  change (j.record? (defaultedFields fieldNames)).bind _ = some o ↔ _
  constructor
  · intro h
    obtain ⟨given, hgiven, h⟩ := Option.bind_eq_some_iff.mp h
    obtain ⟨_, hversions, h⟩ := Option.bind_eq_some_iff.mp h
    obtain ⟨_, hencryption₁, h⟩ := Option.bind_eq_some_iff.mp h
    obtain ⟨_, hintegrity₁, h⟩ := Option.bind_eq_some_iff.mp h
    obtain ⟨_, hgroups₁, h⟩ := Option.bind_eq_some_iff.mp h
    obtain ⟨_, hencryption₂, h⟩ := Option.bind_eq_some_iff.mp h
    obtain ⟨_, hintegrity₂, h⟩ := Option.bind_eq_some_iff.mp h
    obtain ⟨_, hgroups₂, h⟩ := Option.bind_eq_some_iff.mp h
    obtain ⟨_, haddress, h⟩ := Option.bind_eq_some_iff.mp h
    obtain ⟨_, hblock, h⟩ := Option.bind_eq_some_iff.mp h
    obtain ⟨_, hkey, h⟩ := Option.bind_eq_some_iff.mp h
    obtain ⟨_, hlifetime₁, h⟩ := Option.bind_eq_some_iff.mp h
    obtain ⟨_, hlifetime₂, h⟩ := Option.bind_eq_some_iff.mp h
    obtain rfl := Option.some.inj h
    refine
      { shape := (Json.record?_eq_some_iff.mp hgiven).1
        lists := fun l hl => (orDefault_list_eq_some_iff hgiven hl).mp ?_
        outsideAddress := (orDefault_none_eq_some_iff hgiven (by decide)).mp haddress
        insideBlock := (orDefault_none_eq_some_iff hgiven (by decide)).mp hblock
        preSharedKey := (orDefault_none_eq_some_iff hgiven (by decide)).mp hkey
        phase1Lifetime := (orDefault_none_eq_some_iff hgiven (by decide)).mp hlifetime₁
        phase2Lifetime := (orDefault_none_eq_some_iff hgiven (by decide)).mp hlifetime₂ }
    revert l
    simp only [tokenLists, List.forall_mem_cons]
    exact ⟨hversions, hencryption₁, hintegrity₁, hgroups₁, hencryption₂, hintegrity₂, hgroups₂,
      fun _ h => nomatch h⟩
  · rintro ⟨hshape, hlists, haddress, hblock, hkey, hlifetime₁, hlifetime₂⟩
    have hgiven := Json.record?_eq_some_iff.mpr ⟨hshape, rfl⟩
    have hread (l : TokenList) (hl : l ∈ tokenLists) :=
      (orDefault_list_eq_some_iff hgiven hl).mpr (hlists l hl)
    simp only [tokenLists, List.forall_mem_cons] at hread
    obtain ⟨hversions, hencryption₁, hintegrity₁, hgroups₁, hencryption₂, hintegrity₂, hgroups₂,
      -⟩ := hread
    rw [← orDefault_none_eq_some_iff hgiven (by decide)] at haddress hblock hkey
    rw [← orDefault_none_eq_some_iff hgiven (by decide)] at hlifetime₁ hlifetime₂
    rw [hgiven, Option.bind_some]
    simp only [hversions, hencryption₁, hintegrity₁, hgroups₁, hencryption₂, hintegrity₂,
      hgroups₂, haddress, hblock, hkey, hlifetime₁, hlifetime₂, Option.bind_eq_bind,
      Option.bind_some]
    rfl

/-- Integers that are spelled out do not show in the options. -/
theorem ofJson?_of_respelled (h : Respelled j j') :
    (ofJson? j' : Option TunnelOptions) = ofJson? j := by
  refine Json.bind_record?_of_fieldwise (fun _ _ => .inl rfl) ?_ h
  intro given given' hgiven
  have hlist (name : String) (default : List TokenEntry) :
      Json.orDefault given' name default = Json.orDefault given name default := by
    apply Json.orDefault_of_related hgiven
    rintro v v' (rfl | ⟨-, items, items', rfl, rfl, hitems⟩)
    · rfl
    · exact list?_of_respelled hitems
  have hother {α : Type} [JsonForm α] {name : String} (hname : name ∉ listNames) (a : α) :
      Json.orDefault given' name a = Json.orDefault given name a := by
    apply Json.orDefault_of_related hgiven
    rintro v v' (rfl | ⟨h, -⟩)
    · rfl
    · exact absurd h hname
  simp only [hlist, @hother (Option String) _ "OutsideIpAddress" (by decide),
    @hother (Option String) _ "TunnelInsideCidr" (by decide),
    @hother (Option String) _ "PreSharedKey" (by decide),
    @hother (Option UInt32) _ "Phase1LifetimeSeconds" (by decide),
    @hother (Option UInt32) _ "Phase2LifetimeSeconds" (by decide)]

/-- An entry with a number that spells no token is not read, and neither are its options. -/
theorem ofJson?_eq_none_of_stray {l : TokenList} (hl : l ∈ tokenLists) {items : List Json}
    (hitems : Gives fieldNames j l.name (.array items)) {e v : Json} (he : e ∈ items)
    (hv : Gives TokenEntry.fieldNames e "Value" v) (hstray : TokenEntry.IsStrayNumber v) :
    (ofJson? j : Option TunnelOptions) = none := by
  rw [Option.eq_none_iff_forall_ne_some]
  intro o ho
  have hdescribes := ofJson?_eq_some_iff.mp ho
  have hname : l.name ∈ fieldNames := List.mem_append_left _ (List.mem_map_of_mem hl)
  obtain ⟨entries, hentries⟩ : ∃ entries : List TokenEntry,
      List.Forall₂ (fun e t => TokenEntry.Spells e t.token) items entries := by
    have hlist := hdescribes.lists l hl
    generalize l.entries o = entries at hlist
    cases hlist with
    | omitted h => exact absurd hitems (h _)
    | given h hentries =>
        obtain rfl := Json.array.inj
          (Json.IsRecord.eq_of_gives nodup_fieldNames hname hdescribes.shape h hitems)
        exact ⟨_, hentries⟩
  obtain ⟨t, -, ht⟩ := exists_of_mem_forall₂ (List.Forall₂.flip hentries) he
  exact TokenEntry.not_spells_of_isStrayNumber hv hstray ht

/-- An integer of 64 bits among the tokens means its decimal text. Options in whose lists any
entries are spelled the other way are the same ones, or are refused with them. An entry spells
one token: its text, the text of its integer, or the empty one if its value is null or missing;
any other number makes the options be refused. Options are read from exactly those values that
describe them. A list that they do not have is its default, and one that they have, be it empty,
has an entry for each of its items in their order. -/
theorem integers_spell_their_texts :
    (∀ j j', Respelled j j' → (ofJson? j' : Option TunnelOptions) = ofJson? j) ∧
    (∀ e t, (ofJson? e : Option TokenEntry) = some t ↔ TokenEntry.Spells e t.token) ∧
    (∀ j o, ofJson? j = some o ↔ Describes j o) ∧
    ∀ j, ∀ l ∈ tokenLists, ∀ items e v, Gives fieldNames j l.name (.array items) → e ∈ items →
      Gives TokenEntry.fieldNames e "Value" v → TokenEntry.IsStrayNumber v →
      (ofJson? j : Option TunnelOptions) = none := by
  refine ⟨fun j j' => ofJson?_of_respelled, fun e t => TokenEntry.ofJson?_eq_some_iff,
    fun j o => ofJson?_eq_some_iff, ?_⟩
  intro j l hl items e v hitems he hv hstray
  exact ofJson?_eq_none_of_stray hl hitems he hv hstray

/-- Entries of each kind, two of them with an integer that is spelled out, and a list without
any; and options that a number with a fraction makes unreadable. -/
theorem integers_spell_their_texts_mixed_lists :
    let entry (v : Json) : Json := .object [("Value", v)]
    let options (group position : Json) : Json := .object
      [("IkeVersions", .array [entry (.string "ikev2"), entry .null, .object []]),
        ("Phase1DHGroupNumbers", .array [entry group, .array [position], entry group]),
        ("Phase2DHGroupNumbers", .array [])]
    let j := options (.integer 14) (.integer (-1))
    let j' := options (.string "14") (.string "-1")
    let o : TunnelOptions :=
      { (default : TunnelOptions) with
        ikeVersions := entriesOf ["ikev2", "", ""]
        phase1Groups := entriesOf ["14", "-1", "14"]
        phase2Groups := [] }
    let stray : Json := .object
      [("Phase2DHGroupNumbers", .array [entry (.integer 14), entry (.decimal "14.0")])]
    Respelled j j' ∧ ofJson? j = some o ∧ (ofJson? j' : Option TunnelOptions) = ofJson? j ∧
      TokenEntry.Spells (entry (.integer 14)) "14" ∧ Describes j o ∧
      (ofJson? stray : Option TunnelOptions) = none := by
  intro entry options j j' o stray
  obtain ⟨hrespelled, hspells, hdescribes, hstray⟩ := integers_spell_their_texts
  have hgroup : TokenEntry.Respelled (entry (.integer 14)) (entry (.string "14")) :=
    .object (.cons ⟨rfl, .inr ⟨14, by decide, rfl, rfl⟩⟩ .nil)
  have hposition : TokenEntry.Respelled (.array [.integer (-1)]) (.array [.string "-1"]) :=
    .array rfl (.cons ⟨rfl, .inr ⟨-1, by decide, rfl, rfl⟩⟩ .nil)
  have hj : Respelled j j' :=
    .object (.cons ⟨rfl, .inl rfl⟩ (.cons
      ⟨rfl, .inr ⟨by decide, _, _, rfl, rfl, .cons hgroup (.cons hposition (.cons hgroup .nil))⟩⟩
      (.cons ⟨rfl, .inl rfl⟩ .nil)))
  have hread : ofJson? j = some o := by decide +kernel
  have hentry : (ofJson? (entry (.integer 14)) : Option TokenEntry) = some ⟨"14"⟩ := by
    decide +kernel
  refine ⟨hj, hread, hrespelled j j' hj, (hspells _ _).mp hentry, (hdescribes j o).mp hread, ?_⟩
  exact hstray stray ⟨"Phase2DHGroupNumbers", allPhase2Groups, phase2Groups⟩
    (by simp [tokenLists]) _ _ _ (List.mem_cons_self ..) (List.mem_cons_of_mem _
      (List.mem_cons_self ..)) (List.mem_cons_self ..) (.decimal "14.0")

end TunnelOptions

end SiteVpn
