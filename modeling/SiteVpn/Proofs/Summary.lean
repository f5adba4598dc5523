import SiteVpn.Gateway.Printer
import SiteVpn.Proofs.Application
import SiteVpn.Proofs.Numeral
import SiteVpn.Proofs.TableLines

/-!
# The lines of printed summaries

A summary is a table of outcomes or connections. Nothing in their names and accounts is escaped,
so a tab or a line end in one of them acts as such: the table has a line for each record exactly
where the names have neither and the rest has no line ends. The words of an account have none,
so those that an account has are in what it quotes: texts of the record, or what the reader of a
format says about what it refuses. Nothing is assumed of the latter, which may repeat any part of
what is refused.
-/

namespace SiteVpn

open Text.Table (HasOneLineEach IsBlock ended labelStart layout rowsText)

variable (accounts : Accounts)

/-! ## What accounts quote -/

/-- Whether a text has a line end. -/
def HasLineEnd (s : String) : Prop := '\n' ∈ s.toList

theorem not_mem_toList_ofList {c : Char} {cs : List Char} (h : c ∉ cs) :
    c ∉ (String.ofList cs).toList := by
  rwa [String.toList_ofList]

/-- A text that is spelled out has the characters that it is spelled with. -/
theorem not_hasLineEnd_ofList {cs : List Char} (h : '\n' ∉ cs) :
    ¬ HasLineEnd (String.ofList cs) :=
  not_mem_toList_ofList h

theorem hasLineEnd_append {s s' : String} :
    HasLineEnd (s ++ s') ↔ HasLineEnd s ∨ HasLineEnd s' := by
  unfold HasLineEnd
  rw [String.toList_append, List.mem_append]

theorem not_hasLineEnd_write (n : Nat) : ¬ HasLineEnd (Decimal.write n) := by
  intro h
  rw [HasLineEnd, Decimal.toList_write] at h
  exact absurd (Decimal.isDigit_of_mem_digits h) (by decide)

/-- What an account of an address quotes. -/
def Address.ReadError.quoted : Address.ReadError → List String
  | .field _ => []
  | .fieldCount text => [text]

/-- What an account of a value quotes beside the value. -/
def ValueError.quoted : ValueError → List String
  | .address cause => cause.quoted
  | .block (.address cause) => cause.quoted
  | _ => []

/-- What an account of an error quotes, from the record or from a reader of formats. -/
def ConnectionError.quoted : ConnectionError → List String
  | .malformedRecord record => [accounts.record record]
  | .malformedDocument connection document => [connection, accounts.document document]
  | .missingField connection _ => connection.toList
  | .gatewayConflict connection => [connection]
  | .missingElement connection path => connection :: path
  | .badValue connection _ value cause => connection :: value :: cause.quoted
  | .unknownToken cause => [cause.token]
  | _ => []

theorem not_hasLineEnd_numeralError (e : Decimal.NumeralError) : ¬ HasLineEnd e.message := by
  cases e <;> exact not_hasLineEnd_ofList (by decide)

theorem not_hasLineEnd_recordField (field : RecordField) : ¬ HasLineEnd field.text := by
  cases field <;> exact not_hasLineEnd_ofList (by decide)

theorem not_hasLineEnd_valueRole (role : ValueRole) : ¬ HasLineEnd role.text := by
  cases role <;> exact not_hasLineEnd_ofList (by decide)

theorem not_hasLineEnd_tokenKind (kind : TokenKind) : ¬ HasLineEnd kind.text := by
  cases kind <;> exact not_hasLineEnd_ofList (by decide)

theorem not_hasLineEnd_rangeMessage (n : Nat) : ¬ HasLineEnd (PrefixLength.rangeMessage n) := by
  have hwords : ¬ HasLineEnd "bad IPv4 prefix length: " := not_hasLineEnd_ofList (by decide)
  unfold PrefixLength.rangeMessage
  rw [hasLineEnd_append, not_or]
  exact ⟨hwords, not_hasLineEnd_write n⟩

theorem hasLineEnd_addressError (e : Address.ReadError) :
    HasLineEnd e.message ↔ ∃ s ∈ e.quoted, HasLineEnd s := by
  cases e with
  | field cause =>
      unfold Address.ReadError.message
      simp [Address.ReadError.quoted, not_hasLineEnd_numeralError]
  | fieldCount text =>
      have hwords : ¬ HasLineEnd "malformed ip: " := not_hasLineEnd_ofList (by decide)
      unfold Address.ReadError.message
      simp [Address.ReadError.quoted, hasLineEnd_append, hwords]

theorem hasLineEnd_blockError (e : Cidr.ReadError) :
    HasLineEnd e.message ↔ ∃ s ∈ (ValueError.block e).quoted, HasLineEnd s := by
  cases e with
  | noSlash =>
      have hwords : ¬ HasLineEnd (Cidr.ReadError.message .noSlash) :=
        not_hasLineEnd_ofList (by decide)
      simp [hwords, ValueError.quoted]
  | address cause =>
      have hwords : ¬ HasLineEnd "bad IP: " := not_hasLineEnd_ofList (by decide)
      unfold Cidr.ReadError.message
      rw [hasLineEnd_append, or_iff_right hwords]
      exact hasLineEnd_addressError cause
  | length cause =>
      have hwords : ¬ HasLineEnd "bad prefix length: " := not_hasLineEnd_ofList (by decide)
      unfold Cidr.ReadError.message
      rw [hasLineEnd_append, or_iff_right hwords]
      simp [ValueError.quoted, not_hasLineEnd_numeralError]
  | lengthRange n =>
      unfold Cidr.ReadError.message
      simp [ValueError.quoted, not_hasLineEnd_rangeMessage]

theorem hasLineEnd_valueError (e : ValueError) :
    HasLineEnd e.message ↔ ∃ s ∈ e.quoted, HasLineEnd s := by
  cases e with
  | numeral cause =>
      unfold ValueError.message
      simp [ValueError.quoted, not_hasLineEnd_numeralError]
  | prefixLength n =>
      unfold ValueError.message
      simp [ValueError.quoted, not_hasLineEnd_rangeMessage]
  | address cause => exact hasLineEnd_addressError cause
  | block cause => exact hasLineEnd_blockError cause

theorem hasLineEnd_intercalate (path : List String) :
    HasLineEnd ("/".intercalate path) ↔ ∃ s ∈ path, HasLineEnd s := by
  unfold HasLineEnd
  rw [String.toList_intercalate]
  induction path with
  | nil => simp
  | cons s path ih =>
      cases path with
      | nil => simp
      | cons next path =>
          rw [List.map_cons, List.map_cons, List.intercalate_cons_cons, ← List.map_cons,
            List.mem_append, List.mem_append, ih]
          simp

/-- The words that accounts are made of. -/
def accountWords : List String :=
  ["malformed VPN connection descriptor: ",
    "could not parse XML for CustomerGatewayConfiguration for VPN connection ", ": ",
    "VPN connection ", ConnectionError.unnamed, ": missing required field ",
    ": exactly one of TransitGatewayId and VpnGatewayId must be set", ": no ", " element",
    ": bad ", " \"", "\": ", "no conversion to ", " for string: \"", "\"", "Index ",
    " is out of bounds for length ", " TunnelOptions entries for ", " IPsec tunnels"]

theorem not_hasLineEnd_of_mem_accountWords : ∀ w ∈ accountWords, ¬ HasLineEnd w := by
  simp only [accountWords, List.forall_mem_cons]
  and_intros
  all_goals first
    | exact not_hasLineEnd_ofList (by decide)
    | exact List.forall_mem_nil _

/-- The line ends of an account are those of what it quotes. -/
theorem hasLineEnd_message (e : ConnectionError) :
    HasLineEnd (e.message accounts) ↔ ∃ s ∈ e.quoted accounts, HasLineEnd s := by
  have hwords := not_hasLineEnd_of_mem_accountWords
  simp only [accountWords, List.forall_mem_cons] at hwords
  cases e with
  | malformedRecord record =>
      unfold ConnectionError.message
      simp [ConnectionError.quoted, hasLineEnd_append, hwords]
  | malformedDocument connection document =>
      unfold ConnectionError.message
      simp [ConnectionError.quoted, hasLineEnd_append, hwords]
  | missingField connection field =>
      unfold ConnectionError.message
      cases connection <;>
        simp [ConnectionError.quoted, hasLineEnd_append, hwords, not_hasLineEnd_recordField]
  | gatewayConflict connection =>
      unfold ConnectionError.message
      simp [ConnectionError.quoted, hasLineEnd_append, hwords]
  | missingElement connection path =>
      unfold ConnectionError.message
      simp [ConnectionError.quoted, hasLineEnd_append, hwords, hasLineEnd_intercalate]
  | badValue connection role value cause =>
      unfold ConnectionError.message
      simp [ConnectionError.quoted, hasLineEnd_append, hwords, not_hasLineEnd_valueRole,
        hasLineEnd_valueError, or_assoc]
  | unknownToken cause =>
      unfold ConnectionError.message UnknownToken.message
      simp [ConnectionError.quoted, hasLineEnd_append, hwords, not_hasLineEnd_tokenKind]
  | elementUnpaired index options =>
      unfold ConnectionError.message
      simp [ConnectionError.quoted, hasLineEnd_append, hwords, not_hasLineEnd_write]
  | optionsUnpaired elements options =>
      unfold ConnectionError.message
      simp [ConnectionError.quoted, hasLineEnd_append, hwords, not_hasLineEnd_write]

theorem hasLineEnd_outcome {o : Outcome} :
    HasLineEnd (o.text accounts) ↔
      ∃ e, o = .failed e ∧ ∃ s ∈ e.quoted accounts, HasLineEnd s := by
  cases o with
  | applied =>
      have hwords : ¬ HasLineEnd (Outcome.applied.text accounts) :=
        not_hasLineEnd_ofList (by decide)
      simp [hwords]
  | skipped =>
      have hwords : ¬ HasLineEnd (Outcome.skipped.text accounts) :=
        not_hasLineEnd_ofList (by decide)
      simp [hwords]
  | failed e =>
      have hwords : ¬ HasLineEnd "failed: " := not_hasLineEnd_ofList (by decide)
      unfold Outcome.text
      simp [hasLineEnd_append, hwords, hasLineEnd_message]

/-! ## Names of records -/

namespace Report

/-- The name that a record has among the outcomes: that of its connection, or its position where
it is none. -/
def labelOf (index : Nat) : Except ConnectionError Connection → String
  | .error _ => positionLabel index
  | .ok c => c.id

theorem map_fst_outcomes_add (r : Report) (p : Placement) (index : Nat)
    (slot : Except ConnectionError Connection) :
    (r.add p index slot).outcomes.map (·.1) = r.outcomes.map (·.1) ++ [labelOf index slot] := by
  cases slot with
  | error e => simp [add, refuse, labelOf]
  | ok c => simp [add, outcomes_attach, labelOf]

theorem map_fst_outcomes_addFrom (r : Report) (p : Placement) (index : Nat)
    (slots : List (Except ConnectionError Connection)) :
    (r.addFrom p index slots).outcomes.map (·.1) =
      r.outcomes.map (·.1) ++ slots.mapIdx fun i slot => labelOf (index + i) slot := by
  induction slots generalizing r index with
  | nil => simp [addFrom]
  | cons slot slots ih =>
      rw [addFrom, ih, map_fst_outcomes_add, List.mapIdx_cons, List.append_assoc]
      simp only [Nat.add_zero, Nat.add_assoc, Nat.add_comm 1]
      rfl

/-- A position is a name without tabs and line ends. -/
theorem positionLabel_plain (index : Nat) :
    '\t' ∉ (positionLabel index).toList ∧ '\n' ∉ (positionLabel index).toList := by
  have hplain (c : Char) (hsharp : c ≠ '#') (hdigit : ¬ c.isDigit) :
      c ∉ (positionLabel index).toList := by
    rw [positionLabel, String.toList_append, Decimal.toList_write, List.mem_append, not_or]
    exact ⟨fun h => hsharp (List.mem_singleton.mp h),
      fun h => hdigit (Decimal.isDigit_of_mem_digits h)⟩
  exact ⟨hplain _ (by decide) (by decide), hplain _ (by decide) (by decide)⟩

end Report

namespace Gateway

/-- The outcomes of a run are named after its records, in their order. -/
theorem map_fst_outcomes_runSlots (g : Gateway)
    (slots : List (Except ConnectionError Connection)) :
    (g.runSlots slots).outcomes.map (·.1) = slots.mapIdx Report.labelOf := by
  rw [runSlots, Report.map_fst_outcomes_addFrom]
  simp only [Nat.zero_add]
  rfl

end Gateway

/-! ## Lines of summaries -/

/-- The cells of an outcome after its name. -/
def Outcome.cells (o : Outcome) : List String := [o.text accounts]

/-- The cells of a connection after its name. -/
def Connection.cells (c : Connection) : List String :=
  [c.gateway, c.gatewayType.text, c.routingText, Decimal.write c.tunnels.length,
    Decimal.write c.routes.length]

/-- The title of the names in a summary. -/
def nameTitle : String := "CONNECTION"

/-- Whether the lines of a text are a line for a header, which begins with the title of the names,
and the lines of each row, in their order. -/
def IsSummaryOf (rows : List (String × List String)) (text : String) : Prop :=
  ∃ header blocks, text.toList = ended (header :: blocks.flatten) ∧ '\n' ∉ header ∧
    nameTitle.toList <+: header ∧
    List.Forall₂ (fun r block => IsBlock r.1 r.2 block) rows blocks

theorem isSummaryOf_layout (titles : List String)
    (hheader : ∀ cell ∈ nameTitle :: titles, '\n' ∉ cell.toList)
    (rows : List (String × List String)) :
    IsSummaryOf rows (String.ofList (layout (rowsText ((nameTitle, titles) :: rows)))) := by
  obtain ⟨blocks, hblocks, hrows⟩ := Text.Table.exists_blocks
    (Text.Table.padded_layout (rowsText ((nameTitle, titles) :: rows)))
  cases hrows with
  | cons hfirst hrows =>
      obtain ⟨line, rfl, hline, hstart⟩ := hfirst.exists_line hheader
      have htitle : labelStart nameTitle = nameTitle.toList :=
        Text.Table.labelStart_eq_self (by decide) (by decide)
      change labelStart nameTitle <+: line at hstart
      rw [htitle] at hstart
      refine ⟨line, _, ?_, hline, hstart, hrows⟩
      rw [String.toList_ofList, hblocks, List.flatten_cons]
      rfl

theorem printOutcomes_eq (outcomes : List (String × Outcome)) :
    printOutcomes accounts outcomes = String.ofList (layout (rowsText
      ((nameTitle, ["OUTCOME"]) :: outcomes.map fun o => (o.1, o.2.cells accounts)))) := by
  rw [printOutcomes, outcomeRows, rowsText, List.flatMap_cons, List.flatMap_map]
  rfl

theorem printConnections_eq (cs : List Connection) :
    printConnections cs = String.ofList (layout (rowsText
      ((nameTitle, ["GATEWAY", "TYPE", "ROUTING", "TUNNELS", "ROUTES"]) ::
        cs.map fun c => (c.id, c.cells)))) := by
  rw [printConnections, connectionRows, rowsText, List.flatMap_cons, List.flatMap_map]
  rfl

/-- The outcomes are listed one a line where no name has a tab or a line end and no account has
a line end, and only there. -/
theorem hasOneLineEach_printOutcomes_iff (outcomes : List (String × Outcome)) :
    HasOneLineEach nameTitle (outcomes.map (·.1)) (printOutcomes accounts outcomes).toList ↔
      ∀ o ∈ outcomes,
        '\t' ∉ o.1.toList ∧ '\n' ∉ o.1.toList ∧ ¬ HasLineEnd (o.2.text accounts) := by
  have hrows := Text.Table.hasOneLineEach_iff nameTitle ["OUTCOME"] (by decide)
    (by decide) (outcomes.map fun o => (o.1, o.2.cells accounts))
  rw [List.map_map, List.forall_mem_map] at hrows
  rw [printOutcomes_eq, String.toList_ofList]
  refine hrows.trans (forall₂_congr fun o _ => and_congr_right fun _ => ?_)
  rw [Outcome.cells, List.forall_mem_cons, List.forall_mem_singleton]
  rfl

/-- The connections are listed one a line where no name has a tab or a line end and no gateway's
name has a line end, and only there. -/
theorem hasOneLineEach_printConnections_iff (cs : List Connection) :
    HasOneLineEach nameTitle (cs.map (·.id)) (printConnections cs).toList ↔
      ∀ c ∈ cs, '\t' ∉ c.id.toList ∧ '\n' ∉ c.id.toList ∧ '\n' ∉ c.gateway.toList := by
  have hrows := Text.Table.hasOneLineEach_iff nameTitle
    ["GATEWAY", "TYPE", "ROUTING", "TUNNELS", "ROUTES"] (by decide) (by decide)
    (cs.map fun c => (c.id, c.cells))
  rw [List.map_map, List.forall_mem_map] at hrows
  rw [printConnections_eq, String.toList_ofList]
  refine hrows.trans (forall₂_congr fun c _ => and_congr_right fun _ => ?_)
  have htype : '\n' ∉ c.gatewayType.text.toList := by
    cases c.gatewayType <;> exact not_mem_toList_ofList (by decide)
  have hrouting : '\n' ∉ c.routingText.toList := by
    unfold Connection.routingText
    cases c.isBgp <;> exact not_mem_toList_ofList (by decide)
  simp only [Connection.cells, List.forall_mem_cons]
  constructor
  · rintro ⟨hid, hgateway, -⟩
    exact ⟨hid, hgateway⟩
  · rintro ⟨hid, hgateway⟩
    exact ⟨hid, hgateway, htype, hrouting, not_hasLineEnd_write _, not_hasLineEnd_write _,
      List.forall_mem_nil _⟩

namespace Gateway

variable (g : Gateway) (slots : List (Except ConnectionError Connection))

/-- The names and the accounts of a run are plain where the names of the connections are, and
what the accounts quote. -/
theorem hasOneLineEach_runSlots_iff :
    HasOneLineEach nameTitle ((g.runSlots slots).outcomes.map (·.1))
        (printOutcomes accounts (g.runSlots slots).outcomes).toList ↔
      (∀ c, .ok c ∈ slots → '\t' ∉ c.id.toList ∧ '\n' ∉ c.id.toList) ∧
        ∀ label e, (label, .failed e) ∈ (g.runSlots slots).outcomes →
          ∀ s ∈ e.quoted accounts, '\n' ∉ s.toList := by
  have hlabels := g.map_fst_outcomes_runSlots slots
  rw [hasOneLineEach_printOutcomes_iff]
  constructor
  · intro h
    constructor
    · intro c hc
      obtain ⟨i, hi⟩ := List.mem_iff_getElem?.mp hc
      have hlabel : c.id ∈ (g.runSlots slots).outcomes.map (·.1) := by
        rw [hlabels]
        exact List.mem_mapIdx.mpr ⟨i, (List.getElem?_eq_some_iff.mp hi).1, by
          rw [(List.getElem?_eq_some_iff.mp hi).2]
          rfl⟩
      obtain ⟨o, ho, hid⟩ := List.mem_map.mp hlabel
      obtain ⟨htab, hline, -⟩ := h o ho
      rw [hid] at htab hline
      exact ⟨htab, hline⟩
    · intro label e he s hs hline
      exact (h _ he).2.2 ((hasLineEnd_outcome accounts).mpr ⟨e, rfl, s, hs, hline⟩)
  · rintro ⟨hnames, hquoted⟩ o ho
    have hlabel : o.1 ∈ slots.mapIdx Report.labelOf := by
      rw [← hlabels]
      exact List.mem_map_of_mem ho
    obtain ⟨i, hi, hlabel⟩ := List.mem_mapIdx.mp hlabel
    have hplain : '\t' ∉ o.1.toList ∧ '\n' ∉ o.1.toList := by
      rw [← hlabel]
      cases hslot : slots[i] with
      | error e => exact Report.positionLabel_plain i
      | ok c => exact hnames c (hslot ▸ List.getElem_mem hi)
    refine ⟨hplain.1, hplain.2, ?_⟩
    rw [hasLineEnd_outcome]
    rintro ⟨e, he, s, hs, hline⟩
    exact hquoted o.1 e (he ▸ ho) s hs hline

/-- Printed summaries list records, but do not keep them apart. After its header, the summary of
a run has for each outcome in order a line that begins with its name, and one more line for each
line end in the name or the account. So each outcome has one line, which begins with its whole
name, exactly where no connection has a tab or a line end in its name and no account quotes a
line end, be it of the record or of what the reader of a format says. Records that are no
connections are named after their positions. The summary of connections is the same with their
names and the names of their gateways. -/
theorem summaries_list_records :
    (∀ (g : Gateway) fallback text r, g.run fallback text = some r →
      ∃ slots, Connection.ofText? (g.saltOr fallback) text = some slots ∧
        r.outcomes.map (·.1) = slots.mapIdx Report.labelOf ∧
        IsSummaryOf (r.outcomes.map fun o => (o.1, o.2.cells accounts))
          (printOutcomes accounts r.outcomes) ∧
        (HasOneLineEach nameTitle (r.outcomes.map (·.1))
            (printOutcomes accounts r.outcomes).toList ↔
          (∀ c, .ok c ∈ slots → '\t' ∉ c.id.toList ∧ '\n' ∉ c.id.toList) ∧
            ∀ label e, (label, .failed e) ∈ r.outcomes →
              ∀ s ∈ e.quoted accounts, '\n' ∉ s.toList)) ∧
    ∀ cs : List Connection,
      IsSummaryOf (cs.map fun c => (c.id, c.cells)) (printConnections cs) ∧
      (HasOneLineEach nameTitle (cs.map (·.id)) (printConnections cs).toList ↔
        ∀ c ∈ cs, '\t' ∉ c.id.toList ∧ '\n' ∉ c.id.toList ∧ '\n' ∉ c.gateway.toList) := by
  constructor
  · intro g fallback text r hr
    obtain ⟨slots, hslots, rfl⟩ := Option.map_eq_some_iff.mp hr
    refine ⟨slots, hslots, g.map_fst_outcomes_runSlots slots, ?_,
      hasOneLineEach_runSlots_iff accounts g slots⟩
    rw [printOutcomes_eq]
    exact isSummaryOf_layout _ (by decide) _
  · intro cs
    refine ⟨?_, hasOneLineEach_printConnections_iff cs⟩
    rw [printConnections_eq]
    exact isSummaryOf_layout _ (by decide) _

/-- Two records that are no connections, the second for a line end inside a tag of its document,
have a line each where the reader of documents is silent, but not where it repeats what it
refuses. -/
theorem summaries_list_records_refused_record :
    let g : Gateway := ⟨"gw", "inner", true, [], none, none, some "s"⟩
    let entries : List Json :=
      [.object [("VpnConnectionId", .string "a")],
        .array [.string "b", .string "cgw", .null, .string "vgw", .string "<a/\n>", .array [],
          .array [], .array []]]
    let text := ConnectionRecord.listingText entries
    let outcomes :=
      [("#0", Outcome.failed (.missingField (some "a") .customerGateway)),
        ("#1", Outcome.failed (.malformedDocument "b" "<a/\n>"))]
    let repeating : Accounts := { Accounts.silent with document := id }
    (∃ r, g.run ⟨""⟩ text = some r ∧ r.outcomes = outcomes) ∧
      HasOneLineEach nameTitle ["#0", "#1"] (printOutcomes .silent outcomes).toList ∧
      ¬ HasOneLineEach nameTitle ["#0", "#1"] (printOutcomes repeating outcomes).toList := by
  intro g entries text outcomes repeating
  have hlists : ConnectionRecord.Lists text entries := ConnectionRecord.lists_listingText
    (by simp [entries, Json.IsPlain, Json.ItemsPlain, Json.MembersPlain])
    (by simp [entries, Json.depth, Json.depthItems, Json.depthMembers])
  let slots : List (Except ConnectionError Connection) :=
    [.error (.missingField (some "a") .customerGateway), .error (.malformedDocument "b" "<a/\n>")]
  have hslots : Connection.ofText? (g.saltOr ⟨""⟩) text = some slots :=
    (Connection.ofText?_of_lists hlists).trans rfl
  have hrun : g.run ⟨""⟩ text = some (g.runSlots slots) := run_of_slots hslots
  have houtcomes : (g.runSlots slots).outcomes = outcomes := by decide +kernel
  have hlines (accounts : Accounts) :
      HasOneLineEach nameTitle ["#0", "#1"] (printOutcomes accounts outcomes).toList ↔
        (∀ c, .ok c ∈ slots → '\t' ∉ c.id.toList ∧ '\n' ∉ c.id.toList) ∧
          ∀ label e, (label, .failed e) ∈ outcomes →
            ∀ s ∈ e.quoted accounts, '\n' ∉ s.toList := by
    obtain ⟨slots', hslots', -, -, hiff⟩ :=
      (summaries_list_records accounts).1 g ⟨""⟩ text _ hrun
    obtain rfl := Option.some.inj (hslots.symm.trans hslots')
    rwa [houtcomes] at hiff
  refine ⟨⟨_, hrun, houtcomes⟩, (hlines .silent).mpr ⟨?_, ?_⟩, fun h => ?_⟩
  · intro c hc
    simp [slots] at hc
  · intro label e he
    rcases List.mem_pair.mp he with he | he
    · cases he
      decide
    · cases he
      decide
  · have hquoted := ((hlines repeating).mp h).2 "#1" _ (List.mem_cons_of_mem _ (.head _))
    exact hquoted "<a/\n>" (.tail _ (.head _)) (by decide)

/-- A record with line ends in its name makes lines of its own: the second line of its outcome
reads as that of an applied connection. -/
theorem record_forges_row :
    let g : Gateway := ⟨"gw", "inner", true, [], none, none, some "s"⟩
    let text := "\x7b\"VpnConnectionId\":\"a\\nb\\tapplied\\nc\"\x7d"
    let outcomes := [("#0",
      Outcome.failed (.missingField (some "a\nb\tapplied\nc") .customerGateway))]
    (∃ r, g.run ⟨""⟩ text = some r ∧ r.outcomes = outcomes) ∧
      ¬ HasOneLineEach nameTitle (outcomes.map (·.1)) (printOutcomes .silent outcomes).toList := by
  intro g text outcomes
  have hread : Json.readDocument text.toList =
      some (.object [("VpnConnectionId", .string "a\nb\tapplied\nc")]) := by
    rw [show text = String.ofList _ from rfl, String.toList_ofList]
    rfl
  have hslots : Connection.ofText? (g.saltOr ⟨""⟩) text =
      some [.error (.missingField (some "a\nb\tapplied\nc") .customerGateway)] := by
    rw [Connection.ofText?, ConnectionRecord.ofText?, hread]
    rfl
  have houtcomes : (g.runSlots
      [.error (.missingField (some "a\nb\tapplied\nc") .customerGateway)]).outcomes = outcomes := by
    decide +kernel
  refine ⟨⟨_, run_of_slots hslots, houtcomes⟩, ?_⟩
  rw [hasOneLineEach_printOutcomes_iff]
  intro h
  have hline : HasLineEnd "a\nb\tapplied\nc" := by simp [HasLineEnd]
  exact (h _ (List.mem_singleton_self _)).2.2
    ((hasLineEnd_outcome _).mpr ⟨_, rfl, _, List.mem_singleton_self _, hline⟩)

end Gateway

end SiteVpn
