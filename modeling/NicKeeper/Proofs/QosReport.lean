import NicKeeper.Proofs.TextPieces
import NicKeeper.Qos.Text

/-!
# The report on quality of service

A report has a line for the trust mode and, in a section of its own, a row of flags. Between them
and around them stands much else, and a row that begins like the one of the flags counts only if it
is the first such row of its section. The reader keeps this in one flag, and what that flag says can
be said of the lines read so far (`RowDue`). So each line does one of four things (`Step`), whatever
was read before, and the trust mode has nothing to do with the section.

To read what is printed gives back what was printed (`Report`). What can be read at all has both in
it, all of them well-formed, also those that are overridden later (`Tells`).
-/

namespace NicKeeper

open Text

/-! ## Trust modes -/

namespace Trust

variable {trust : Trust} {text word : List Char}

theorem ofText?_eq_ok_iff :
    ofText? text = .ok trust ↔ asciiLower (trim text) = trust.text.toList := by
  have other (found : String) (h : found = trust.text) : found = "pcp" ∨ found = "dscp" := by
    cases trust
    · exact .inl h
    · exact .inr h
  rw [ofText?, ← String.ofList_inj, String.ofList_toList]
  split
  · next found =>
      rw [found]
      cases trust <;> simp [Trust.text]
  · next found =>
      rw [found]
      cases trust <;> simp [Trust.text]
  · next notPcp notDscp =>
      refine ⟨nofun, fun same => ?_⟩
      rcases other _ same with pcp | dscp
      · exact absurd pcp notPcp
      · exact absurd dscp notDscp

/-- No capital is a blank. -/
theorem toLower_of_blank {c : Char} (h : isBlank c = true) : c.toLower = c := by
  refine dif_neg ?_
  rintro ⟨low, high⟩
  have first : 'A'.val.toNat = 65 := rfl
  have last : 'Z'.val.toNat = 90 := rfl
  simp only [isBlank, Bool.or_eq_true, Bool.and_eq_true, decide_eq_true_eq, beq_iff_eq, ge_iff_le,
    UInt32.le_iff_toNat_le, ← UInt32.toNat_inj] at h low high
  simp only [UInt32.reduceToNat] at h
  omega

/-- However it is capitalized, a trust mode is a word. -/
theorem isWord_of_lower (h : asciiLower word = trust.text.toList) : IsWord word where
  ne_nil := by
    rintro rfl
    cases trust <;> cases h
  solid c mem := by
    rw [← Bool.not_eq_true]
    intro blank
    have shown : c ∈ trust.text.toList := by
      rw [← h]
      exact List.mem_map.2 ⟨c, mem, toLower_of_blank blank⟩
    have own : IsWord trust.text.toList := by cases trust <;> decide
    cases blank.symm.trans (own.solid c shown)

end Trust

/-! ## Flags -/

namespace Pfc

variable {parts : List (List Char)} {flags : List Bool} {pfc : Pfc}

/-- The flags as words. -/
def marks (flags : List Bool) : List (List Char) := flags.map fun flag => [flagChar flag]

theorem flag?_eq_ok_iff {part : List Char} {flag : Bool} :
    flag? part = .ok flag ↔ part = [flagChar flag] := by
  unfold flag?
  split
  · cases flag <;> simp [flagChar]
  · cases flag <;> simp [flagChar]
  · next notOff notOn =>
      refine ⟨nofun, fun same => ?_⟩
      cases flag
      · exact absurd same notOff
      · exact absurd same notOn

theorem flags?_cons_eq_ok_iff {part : List Char} :
    flags? (part :: parts) = .ok flags ↔
      ∃ flag rest, flag? part = .ok flag ∧ flags? parts = .ok rest ∧ flag :: rest = flags := by
  rw [flags?]
  constructor
  · intro h
    cases own : flag? part with
    | error e =>
        rw [own] at h
        cases h
    | ok flag =>
        cases others : flags? parts with
        | error e =>
            rw [own, others] at h
            cases h
        | ok rest =>
            rw [own, others] at h
            exact ⟨flag, rest, rfl, rfl, Except.ok.inj h⟩
  · rintro ⟨flag, rest, own, others, rfl⟩
    rw [own, others]
    rfl

theorem flags?_eq_ok_iff : flags? parts = .ok flags ↔ parts = marks flags := by
  induction parts generalizing flags with
  | nil =>
      cases flags with
      | nil => exact ⟨fun _ => rfl, fun _ => rfl⟩
      | cons flag rest => exact ⟨nofun, nofun⟩
  | cons part parts ih =>
      rw [flags?_cons_eq_ok_iff]
      constructor
      · rintro ⟨flag, rest, own, others, rfl⟩
        rw [flag?_eq_ok_iff.1 own, ih.1 others]
        rfl
      · intro same
        cases flags with
        | nil => cases same
        | cons flag rest =>
            obtain ⟨own, others⟩ := List.cons.inj same
            exact ⟨flag, rest, flag?_eq_ok_iff.2 own, ih.2 others, rfl⟩

theorem ofText?_eq_ok_iff {text : List Char} :
    ofText? text = .ok pfc ↔ (splitWhere (· == ',') text).map trim = marks pfc.flags := by
  rw [← flags?_eq_ok_iff, ofText?]
  split
  · split
    · next flags read =>
        constructor
        · intro same
          cases Except.ok.inj same
          exact read
        · intro same
          obtain ⟨own, length⟩ := pfc
          cases read.symm.trans same
          rfl
    · next e read =>
        rw [read]
        exact ⟨nofun, nofun⟩
  · next count =>
      refine ⟨nofun, fun read => absurd ?_ count⟩
      rw [← length_of_flags? read, pfc.length_flags]

/-- Words that are put together with commas are read as flags only if each is one: a comma within a
word would make for a flag too many. -/
theorem ofText?_join_eq_ok_iff (words : ∀ part ∈ parts, IsWord part)
    (count : parts.length = priorityCount) :
    ofText? (join ',' parts) = .ok pfc ↔ parts = marks pfc.flags := by
  have some : parts ≠ [] := by
    rintro rfl
    cases count
  have trimmed : parts.map trim = parts := by
    conv_rhs => rw [← List.map_id parts]
    exact List.map_congr_left fun part mem => (words part mem).firm.trim_eq
  rw [ofText?_eq_ok_iff]
  constructor
  · intro read
    have length := congrArg List.length read
    rw [List.length_map, marks, List.length_map, pfc.length_flags, ← count] at length
    rw [splitWhere_join_of_notMem some (notMem_of_length_splitWhere length), trimmed] at read
    exact read
  · intro same
    have whole : ∀ part ∈ parts, ',' ∉ part := by
      rw [same]
      intro part mem
      obtain ⟨flag, -, rfl⟩ := List.mem_map.1 mem
      cases flag <;> decide
    rw [splitWhere_join_of_notMem some whole, trimmed, same]

end Pfc

namespace Qos

variable {trust : Trust} {pfc : Pfc} {line : List Char}

/-! ## Kinds of lines -/

/-- A line that says what the trust mode is, or fails to. -/
def TrustLead (line : List Char) : Prop := startsWith "Priority trust state:" (trim line) = true

/-- A line that begins the section of the flags. -/
def PfcHeading (line : List Char) : Prop := startsWith "PFC configuration:" (trim line) = true

/-- A line that may be the row of flags. -/
def EnabledLead (line : List Char) : Prop := startsWith "enabled" (trim line) = true

/-- A line that says that the trust mode is this one, in any letter case and with any blanks. -/
def TrustLine (trust : Trust) (line : List Char) : Prop :=
  ∃ gap before word after, Blank gap ∧ Blank before ∧ Blank after ∧
    asciiLower word = trust.text.toList ∧
    line = gap ++ ("Priority trust state:".toList ++ (before ++ word ++ after))

/-- A row with these flags, with any blanks between them. -/
def FlagRow (pfc : Pfc) (line : List Char) : Prop :=
  ∃ gap values, Blank gap ∧ Spaced (Pfc.marks pfc.flags) values ∧
    line = gap ++ ("enabled".toList ++ values)

instance : Decidable (TrustLead line) :=
  inferInstanceAs (Decidable (startsWith "Priority trust state:" (trim line) = true))

instance : Decidable (PfcHeading line) :=
  inferInstanceAs (Decidable (startsWith "PFC configuration:" (trim line) = true))

instance : Decidable (EnabledLead line) :=
  inferInstanceAs (Decidable (startsWith "enabled" (trim line) = true))

theorem not_startsWith_of_apart {lead other : String} {text : List Char}
    (apart : ¬ lead.toList <+: other.toList ∧ ¬ other.toList <+: lead.toList)
    (h : startsWith lead text = true) : ¬ startsWith other text = true := by
  intro both
  rcases List.prefix_or_prefix_of_prefix (startsWith_eq_true_iff.1 h)
    (startsWith_eq_true_iff.1 both) with inner | inner
  · exact apart.1 inner
  · exact apart.2 inner

theorem TrustLead.not_pfcHeading (h : TrustLead line) : ¬ PfcHeading line :=
  not_startsWith_of_apart (by decide) h

theorem TrustLead.not_enabledLead (h : TrustLead line) : ¬ EnabledLead line :=
  not_startsWith_of_apart (by decide) h

theorem PfcHeading.not_enabledLead (h : PfcHeading line) : ¬ EnabledLead line :=
  not_startsWith_of_apart (by decide) h

theorem trustLine_iff :
    TrustLine trust line ↔ ∃ value, after? "Priority trust state:".toList (trim line) = some value ∧
      Trust.ofText? value = .ok trust := by
  constructor
  · rintro ⟨gap, before, word, after, blank, front, behind, lower, rfl⟩
    refine ⟨_, (after?_trim_eq_some_iff ⟨rfl, rfl⟩).2 ⟨gap, _, blank, rfl, rfl⟩, ?_⟩
    rw [Trust.ofText?_eq_ok_iff, trim_trimEnd, trim_padded front behind,
      (Trust.isWord_of_lower lower).firm.trim_eq, lower]
  · rintro ⟨value, found, read⟩
    obtain ⟨gap, rest, blank, rfl, rfl⟩ := (after?_trim_eq_some_iff ⟨rfl, rfl⟩).1 found
    rw [Trust.ofText?_eq_ok_iff, trim_trimEnd] at read
    obtain ⟨front, behind, before, after, split⟩ := exists_trim rest
    exact ⟨gap, front, trim rest, behind, blank, before, after, read, by rw [← split]⟩

theorem flagRow_iff (row : List Char) :
    FlagRow pfc line ↔ ∃ values, after? "enabled".toList (trim line) = some values ∧
      Reading.pfcRow row values = .ok pfc := by
  have flags (rest : List Char) :
      Reading.pfcRow row (trimEnd rest) = .ok pfc ↔ Spaced (Pfc.marks pfc.flags) rest := by
    rw [← words_eq_iff, Reading.pfcRow, words_trimEnd]
    split
    · next count => exact Pfc.ofText?_join_eq_ok_iff (spaced_words rest).isWord count
    · next count =>
        refine ⟨nofun, fun same => absurd ?_ count⟩
        rw [same, Pfc.marks, List.length_map, pfc.length_flags]
  constructor
  · rintro ⟨gap, rest, blank, spaced, rfl⟩
    exact ⟨_, (after?_trim_eq_some_iff ⟨rfl, rfl⟩).2 ⟨gap, rest, blank, rfl, rfl⟩,
      (flags rest).2 spaced⟩
  · rintro ⟨values, found, read⟩
    obtain ⟨gap, rest, blank, rfl, rfl⟩ := (after?_trim_eq_some_iff ⟨rfl, rfl⟩).1 found
    exact ⟨gap, rest, blank, (flags rest).1 read, rfl⟩

theorem TrustLine.lead (h : TrustLine trust line) : TrustLead line := by
  obtain ⟨value, found, -⟩ := trustLine_iff.1 h
  exact Option.isSome_iff_exists.2 ⟨value, found⟩

theorem FlagRow.lead (h : FlagRow pfc line) : EnabledLead line := by
  obtain ⟨values, found, -⟩ := (flagRow_iff line).1 h
  exact Option.isSome_iff_exists.2 ⟨values, found⟩

/-! ## One line -/

section Line

variable {known next : Reading} {value : List Char}

theorem line_of_trust (found : after? "Priority trust state:".toList (trim line) = some value) :
    known.line line =
      (Trust.ofText? value).map fun trust => { known with trust := some trust } := by
  rw [Reading.line, found]
  cases read : Trust.ofText? value with
  | error e => simp only [read]; rfl
  | ok trust => simp only [read]; rfl

theorem line_of_heading (own : PfcHeading line) :
    known.line line = .ok { known with inPfc := true } := by
  have notTrust : ¬ TrustLead line := fun lead => lead.not_pfcHeading own
  rw [Reading.line, Option.not_isSome_iff_eq_none.1 notTrust]
  exact if_pos own

theorem line_of_row (due : known.inPfc = true)
    (found : after? "enabled".toList (trim line) = some value) :
    known.line line = (Reading.pfcRow (trim line) value).map fun pfc =>
      { known with pfc := some pfc, inPfc := false } := by
  have lead : EnabledLead line := Option.isSome_iff_exists.2 ⟨value, found⟩
  have notTrust : ¬ TrustLead line := fun trust => trust.not_enabledLead lead
  have notHeading : ¬ PfcHeading line := fun heading => heading.not_enabledLead lead
  rw [Reading.line, Option.not_isSome_iff_eq_none.1 notTrust]
  refine (if_neg notHeading).trans ((if_pos due).trans ?_)
  rw [found]
  cases read : Reading.pfcRow (trim line) value with
  | error e => simp only [read]; rfl
  | ok pfc => simp only [read]; rfl

theorem line_of_other (notTrust : ¬ TrustLead line) (notHeading : ¬ PfcHeading line)
    (notDue : known.inPfc = true → ¬ EnabledLead line) : known.line line = .ok known := by
  rw [Reading.line, Option.not_isSome_iff_eq_none.1 notTrust]
  refine (if_neg notHeading).trans ?_
  split
  · next due => rw [Option.not_isSome_iff_eq_none.1 (notDue due)]
  · rfl

/-- What a line does to what has been read. -/
inductive Step (known : Reading) (line : List Char) : Reading → Prop where
  | trust {trust : Trust} (own : TrustLine trust line) :
      Step known line { known with trust := some trust }
  | heading (own : PfcHeading line) : Step known line { known with inPfc := true }
  | flags {pfc : Pfc} (due : known.inPfc = true) (own : FlagRow pfc line) :
      Step known line { known with pfc := some pfc, inPfc := false }
  | other (notTrust : ¬ TrustLead line) (notHeading : ¬ PfcHeading line)
      (notDue : known.inPfc = true → ¬ EnabledLead line) : Step known line known

theorem Step.line_eq (h : Step known line next) : known.line line = .ok next := by
  cases h with
  | trust own =>
      obtain ⟨value, found, read⟩ := trustLine_iff.1 own
      rw [line_of_trust found, read]
      rfl
  | heading own => exact line_of_heading own
  | flags due own =>
      obtain ⟨value, found, read⟩ := (flagRow_iff (trim line)).1 own
      rw [line_of_row due found, read]
      rfl
  | other notTrust notHeading notDue => exact line_of_other notTrust notHeading notDue

theorem step_of_line (h : known.line line = .ok next) : Step known line next := by
  cases trust : after? "Priority trust state:".toList (trim line) with
  | some value =>
      rw [line_of_trust trust] at h
      cases read : Trust.ofText? value with
      | error e =>
          rw [read] at h
          cases h
      | ok found =>
          rw [read] at h
          cases h
          exact .trust (trustLine_iff.2 ⟨value, trust, read⟩)
  | none =>
      have notTrust : ¬ TrustLead line := Option.not_isSome_iff_eq_none.2 trust
      by_cases heading : PfcHeading line
      · rw [line_of_heading heading] at h
        cases h
        exact .heading heading
      by_cases row : known.inPfc = true ∧ EnabledLead line
      · obtain ⟨value, found⟩ := Option.isSome_iff_exists.1 row.2
        rw [line_of_row row.1 found] at h
        cases read : Reading.pfcRow (trim line) value with
        | error e =>
            rw [read] at h
            cases h
        | ok pfc =>
            rw [read] at h
            cases h
            exact .flags row.1 ((flagRow_iff (trim line)).2 ⟨value, found, read⟩)
      · have notDue : known.inPfc = true → ¬ EnabledLead line := fun due lead => row ⟨due, lead⟩
        rw [line_of_other notTrust heading notDue] at h
        cases h
        exact .other notTrust heading notDue

end Line

/-! ## All lines -/

/-- Reading these lines goes well. -/
def Reads (known : Reading) (lines : List (List Char)) (last : Reading) : Prop :=
  lines.foldlM Reading.line known = .ok last

variable {known mid last : Reading} {lines first rest : List (List Char)}

theorem reads_nil_iff : Reads known [] last ↔ last = known := by
  rw [Reads, List.foldlM_nil]
  exact ⟨fun same => (Except.ok.inj same).symm, fun same => congrArg _ same.symm⟩

theorem reads_cons_iff :
    Reads known (line :: rest) last ↔ ∃ mid, Step known line mid ∧ Reads mid rest last := by
  rw [Reads, List.foldlM_cons]
  constructor
  · intro h
    cases read : known.line line with
    | error e =>
        rw [read] at h
        cases h
    | ok mid =>
        rw [read] at h
        exact ⟨mid, step_of_line read, h⟩
  · rintro ⟨mid, step, others⟩
    rw [step.line_eq]
    exact others

theorem reads_append_iff :
    Reads known (first ++ rest) last ↔ ∃ mid, Reads known first mid ∧ Reads mid rest last := by
  induction first generalizing known with
  | nil =>
      constructor
      · exact fun h => ⟨known, reads_nil_iff.2 rfl, h⟩
      · rintro ⟨mid, none, h⟩
        rwa [reads_nil_iff.1 none] at h
  | cons line others ih =>
      rw [List.cons_append, reads_cons_iff]
      constructor
      · rintro ⟨next, step, h⟩
        obtain ⟨mid, before, after⟩ := ih.1 h
        exact ⟨mid, reads_cons_iff.2 ⟨next, step, before⟩, after⟩
      · rintro ⟨mid, before, after⟩
        obtain ⟨next, step, others⟩ := reads_cons_iff.1 before
        exact ⟨next, step, ih.2 ⟨mid, others, after⟩⟩

theorem reads_concat_iff :
    Reads known (lines ++ [line]) last ↔ ∃ mid, Reads known lines mid ∧ Step mid line last := by
  rw [reads_append_iff]
  refine exists_congr fun mid => and_congr_right fun _ => ?_
  rw [reads_cons_iff]
  constructor
  · rintro ⟨next, step, none⟩
    rwa [reads_nil_iff.1 none]
  · exact fun step => ⟨last, step, reads_nil_iff.2 rfl⟩

/-! ## What was read -/

/-- The next line that begins like a row of flags is one: there was a heading, and no such line
since. -/
def RowDue (lines : List (List Char)) : Prop :=
  ∃ before heading between, lines = before ++ heading :: between ∧ PfcHeading heading ∧
    ∀ other ∈ between, ¬ EnabledLead other

theorem rowDue_concat :
    RowDue (lines ++ [line]) ↔ PfcHeading line ∨ RowDue lines ∧ ¬ EnabledLead line := by
  constructor
  · rintro ⟨before, heading, between, split, own, others⟩
    rcases List.eq_nil_or_concat' between with rfl | ⟨inner, last, rfl⟩
    · obtain ⟨-, same⟩ := List.append_inj' split rfl
      cases same
      exact .inl own
    · rw [← List.cons_append, ← List.append_assoc] at split
      obtain ⟨rfl, same⟩ := List.append_inj' split rfl
      cases same
      have ⟨inner, last⟩ := List.forall_mem_append.1 others
      exact .inr ⟨⟨before, heading, _, rfl, own, inner⟩, last _ List.mem_cons_self⟩
  · rintro (heading | ⟨⟨before, heading, between, rfl, own, others⟩, notRow⟩)
    · exact ⟨lines, line, [], rfl, heading, List.forall_mem_nil _⟩
    · refine ⟨before, heading, between ++ [line], by simp, own, ?_⟩
      exact List.forall_mem_append.2 ⟨others, List.forall_mem_singleton.2 notRow⟩

/-- One line keeps what the flag of the reader says of the lines. -/
theorem Step.inPfc_iff (h : Step known line last) (before : known.inPfc = true ↔ RowDue lines) :
    last.inPfc = true ↔ RowDue (lines ++ [line]) := by
  rw [rowDue_concat]
  cases h with
  | trust own =>
      rw [or_iff_right own.lead.not_pfcHeading, and_iff_left own.lead.not_enabledLead]
      exact before
  | heading own => exact ⟨fun _ => .inl own, fun _ => rfl⟩
  | flags due own =>
      refine ⟨nofun, ?_⟩
      rintro (heading | ⟨-, no⟩)
      · exact absurd own.lead heading.not_enabledLead
      · exact absurd own.lead no
  | other notTrust notHeading notDue =>
      rw [or_iff_right notHeading, before]
      exact ⟨fun due => ⟨due, notDue (before.2 due)⟩, And.left⟩

theorem Reads.inPfc_iff (h : Reads {} lines last) : last.inPfc = true ↔ RowDue lines := by
  induction lines using List.reverseRecOn generalizing last with
  | nil =>
      obtain rfl := reads_nil_iff.1 h
      refine ⟨nofun, ?_⟩
      rintro ⟨before, heading, between, none, -⟩
      cases before <;> cases none
  | append_singleton lines line ih =>
      obtain ⟨mid, early, step⟩ := reads_concat_iff.1 h
      exact step.inPfc_iff (ih early)

/-- The trust mode is that of the last line that has one. -/
theorem Reads.exists_trustLine (h : Reads {} lines last) (read : last.trust = some trust) :
    ∃ before line after, lines = before ++ line :: after ∧ TrustLine trust line ∧
      ∀ other ∈ after, ¬ TrustLead other := by
  induction lines using List.reverseRecOn generalizing last with
  | nil =>
      obtain rfl := reads_nil_iff.1 h
      cases read
  | append_singleton lines line ih =>
      obtain ⟨mid, early, step⟩ := reads_concat_iff.1 h
      have extend (kept : mid.trust = some trust) (notTrust : ¬ TrustLead line) :
          ∃ before found after, lines ++ [line] = before ++ found :: after ∧
            TrustLine trust found ∧ ∀ other ∈ after, ¬ TrustLead other := by
        obtain ⟨before, found, after, rfl, own, others⟩ := ih early kept
        refine ⟨before, found, after ++ [line], by simp, own, ?_⟩
        exact List.forall_mem_append.2 ⟨others, List.forall_mem_singleton.2 notTrust⟩
      cases step with
      | trust own =>
          obtain rfl := Option.some.inj read
          exact ⟨lines, line, [], rfl, own, List.forall_mem_nil _⟩
      | heading own => exact extend read fun lead => lead.not_pfcHeading own
      | flags due own => exact extend read fun lead => lead.not_enabledLead own.lead
      | other notTrust _ _ => exact extend read notTrust

/-- The flags are those of the last row that was due. -/
theorem Reads.exists_flagRow (h : Reads {} lines last) (read : last.pfc = some pfc) :
    ∃ before row after, lines = before ++ row :: after ∧ RowDue before ∧ FlagRow pfc row ∧
      ∀ earlier other later, after = earlier ++ other :: later → EnabledLead other →
        ¬ RowDue (before ++ row :: earlier) := by
  induction lines using List.reverseRecOn generalizing last with
  | nil =>
      obtain rfl := reads_nil_iff.1 h
      cases read
  | append_singleton lines line ih =>
      obtain ⟨mid, early, step⟩ := reads_concat_iff.1 h
      have extend (kept : mid.pfc = some pfc) (notRow : EnabledLead line → ¬ RowDue lines) :
          ∃ before row after, lines ++ [line] = before ++ row :: after ∧ RowDue before ∧
            FlagRow pfc row ∧ ∀ earlier other later, after = earlier ++ other :: later →
              EnabledLead other → ¬ RowDue (before ++ row :: earlier) := by
        obtain ⟨before, row, after, rfl, due, own, others⟩ := ih early kept
        refine ⟨before, row, after ++ [line], by simp, due, own, ?_⟩
        intro earlier other later split lead
        rcases List.eq_nil_or_concat' later with rfl | ⟨inner, final, rfl⟩
        · obtain ⟨rfl, same⟩ := List.append_inj' split rfl
          cases same
          exact notRow lead
        · rw [← List.cons_append, ← List.append_assoc] at split
          obtain ⟨rfl, -⟩ := List.append_inj' split rfl
          exact others earlier other inner rfl lead
      cases step with
      | trust own => exact extend read fun lead => absurd lead own.lead.not_enabledLead
      | heading own => exact extend read fun lead => absurd lead own.not_enabledLead
      | flags due own =>
          obtain rfl := Option.some.inj read
          refine ⟨lines, line, [], rfl, early.inPfc_iff.1 due, own, ?_⟩
          intro earlier other later none
          cases earlier <;> cases none
      | other _ _ notDue =>
          exact extend read fun lead due => notDue (early.inPfc_iff.2 due) lead

/-- Some lines tell of a trust mode and of flags. -/
structure Tells (lines : List (List Char)) (trust : Trust) (pfc : Pfc) : Prop where
  /-- The last line on the trust mode has this one. -/
  trust : ∃ before line after, lines = before ++ line :: after ∧ TrustLine trust line ∧
    ∀ other ∈ after, ¬ TrustLead other
  /-- The last row that was due has these flags. -/
  pfc : ∃ before row after, lines = before ++ row :: after ∧ RowDue before ∧ FlagRow pfc row ∧
    ∀ earlier other later, after = earlier ++ other :: later → EnabledLead other →
      ¬ RowDue (before ++ row :: earlier)
  /-- No line on the trust mode has another than the two there are. -/
  trusts : ∀ line ∈ lines, TrustLead line → ∃ found, TrustLine found line
  /-- Every row that was due has eight flags. -/
  rows : ∀ before row after, lines = before ++ row :: after → RowDue before → EnabledLead row →
    ∃ found, FlagRow found row

theorem Reads.tells (h : Reads {} lines last) (ht : last.trust = some trust)
    (hp : last.pfc = some pfc) : Tells lines trust pfc where
  trust := h.exists_trustLine ht
  pfc := h.exists_flagRow hp
  trusts line mem lead := by
    obtain ⟨before, after, rfl⟩ := List.append_of_mem mem
    obtain ⟨mid, -, others⟩ := reads_append_iff.1 h
    obtain ⟨next, step, -⟩ := reads_cons_iff.1 others
    cases step with
    | trust own => exact ⟨_, own⟩
    | heading own => exact absurd own lead.not_pfcHeading
    | flags due own => exact absurd own.lead lead.not_enabledLead
    | other notTrust _ _ => exact absurd lead notTrust
  rows before row after split due lead := by
    obtain rfl := split
    obtain ⟨mid, early, others⟩ := reads_append_iff.1 h
    obtain ⟨next, step, -⟩ := reads_cons_iff.1 others
    cases step with
    | trust own => exact absurd lead own.lead.not_enabledLead
    | heading own => exact absurd lead own.not_enabledLead
    | flags due own => exact ⟨_, own⟩
    | other _ _ notDue => exact absurd lead (notDue (early.inPfc_iff.2 due))

/-! ## What was printed -/

/-- The lines of a report on these settings: a section with the flags, and the trust mode before it,
in it or after it. -/
inductive Report (trust : Trust) (pfc : Pfc) : List (List Char) → Prop where
  | printed {before between after first rest : List (List Char)} {heading row line : List Char}
      (split : first ++ rest = before ++ heading :: (between ++ row :: after))
      (begins : PfcHeading heading) (flags : FlagRow pfc row) (own : TrustLine trust line)
      (others : ∀ other ∈ before ++ between ++ after, ¬ TrustLead other ∧ ¬ PfcHeading other)
      (inner : ∀ other ∈ between, ¬ EnabledLead other) :
      Report trust pfc (first ++ line :: rest)

theorem reads_others
    (plain : ∀ line ∈ lines, ¬ TrustLead line ∧ ¬ PfcHeading line)
    (notDue : known.inPfc = true → ∀ line ∈ lines, ¬ EnabledLead line) :
    Reads known lines known := by
  induction lines with
  | nil => exact reads_nil_iff.2 rfl
  | cons line rest ih =>
      obtain ⟨own, others⟩ := List.forall_mem_cons.1 plain
      have step : Step known line known :=
        .other own.1 own.2 fun due => notDue due line List.mem_cons_self
      exact reads_cons_iff.2 ⟨known, step,
        ih others fun due other mem => notDue due other (List.mem_cons_of_mem _ mem)⟩

/-- Lines that do not tell of the trust mode are read alike, whatever it is known to be. -/
theorem Reads.with_trust (h : Reads known lines last) (plain : ∀ line ∈ lines, ¬ TrustLead line)
    (trust : Option Trust) : Reads { known with trust } lines { last with trust } := by
  induction lines generalizing known with
  | nil =>
      obtain rfl := reads_nil_iff.1 h
      exact reads_nil_iff.2 rfl
  | cons line rest ih =>
      obtain ⟨own, others⟩ := List.forall_mem_cons.1 plain
      obtain ⟨mid, step, reads⟩ := reads_cons_iff.1 h
      refine reads_cons_iff.2 ⟨{ mid with trust }, ?_, ih reads others⟩
      cases step with
      | trust same => exact absurd same.lead own
      | heading same => exact .heading same
      | flags due same => exact .flags due same
      | other notTrust notHeading notDue => exact .other notTrust notHeading notDue

theorem Report.reads (h : Report trust pfc lines) :
    Reads {} lines { trust := some trust, pfc := some pfc } := by
  obtain ⟨split, begins, flags, own, others, inner⟩ := h
  rename_i before between after first rest heading row line
  obtain ⟨outer, plainAfter⟩ := List.forall_mem_append.1 others
  obtain ⟨plainBefore, plainBetween⟩ := List.forall_mem_append.1 outer
  have whole : Reads {} (first ++ rest) { pfc := some pfc } := by
    rw [split]
    have last : Reads { inPfc := true } (row :: after) { pfc := some pfc } :=
      reads_cons_iff.2 ⟨_, .flags rfl flags, reads_others plainAfter nofun⟩
    have body : Reads { inPfc := true } (between ++ row :: after) { pfc := some pfc } :=
      reads_append_iff.2 ⟨_, reads_others plainBetween fun _ => inner, last⟩
    exact reads_append_iff.2 ⟨_, reads_others plainBefore nofun,
      reads_cons_iff.2 ⟨_, .heading begins, body⟩⟩
  have notTrust : ∀ other ∈ rest, ¬ TrustLead other := by
    intro other mem
    have mem : other ∈ before ++ heading :: (between ++ row :: after) :=
      split ▸ List.mem_append_right first mem
    rcases List.mem_append.1 mem with mem | mem
    · exact (plainBefore other mem).1
    rcases List.mem_cons.1 mem with rfl | mem
    · exact fun lead => lead.not_pfcHeading begins
    rcases List.mem_append.1 mem with mem | mem
    · exact (plainBetween other mem).1
    rcases List.mem_cons.1 mem with rfl | mem
    · exact fun lead => lead.not_enabledLead flags.lead
    · exact (plainAfter other mem).1
  obtain ⟨mid, early, late⟩ := reads_append_iff.1 whole
  exact reads_append_iff.2 ⟨mid, early,
    reads_cons_iff.2 ⟨_, .trust own, late.with_trust notTrust (some trust)⟩⟩

theorem reads_lines_join (whole : ∀ piece ∈ lines, '\n' ∉ piece) :
    Reads known (Text.lines (join '\n' lines)) last ↔ Reads known lines last := by
  have trimmed (known : Reading) (line : List Char) :
      known.line (trim line) = known.line line := by
    rw [Reading.line, Reading.line, trim_trim]
  have blank (known : Reading) : known.line [] = .ok known :=
    line_of_other (by decide) (by decide) fun _ => by decide
  rw [Reads, Reads, foldlM_lines_join trimmed blank whole]

theorem ofReport?_eq_ok_iff {report : List Char} :
    ofReport? report = .ok (trust, pfc) ↔
      ∃ last, Reads {} (Text.lines report) last ∧ last.trust = some trust ∧ last.pfc = some pfc := by
  rw [ofReport?]
  cases read : (Text.lines report).foldlM Reading.line {} with
  | error e =>
      refine ⟨nofun, ?_⟩
      rintro ⟨last, reads, -⟩
      cases read.symm.trans reads
  | ok last =>
      obtain ⟨trust?, pfc?, inPfc⟩ := last
      constructor
      · intro h
        cases trust? with
        | none => cases h
        | some trust =>
            cases pfc? with
            | none => cases h
            | some pfc =>
                cases h
                exact ⟨_, read, rfl, rfl⟩
      · rintro ⟨last, reads, ht, hp⟩
        cases read.symm.trans reads
        cases ht
        cases hp
        rfl

/-- Reading a report on quality of service inverts printing it, and what can be read as one tells of
both settings. -/
theorem ofReport?_inverts_report :
    (∀ lines trust pfc, Report trust pfc lines → (∀ line ∈ lines, '\n' ∉ line) →
      ofReport? (join '\n' lines) = .ok (trust, pfc)) ∧
      ∀ report trust pfc, ofReport? report = .ok (trust, pfc) →
        Tells (Text.lines report) trust pfc := by
  constructor
  · intro lines trust pfc printed whole
    exact ofReport?_eq_ok_iff.2 ⟨_, (reads_lines_join whole).2 printed.reads, rfl, rfl⟩
  · intro report trust pfc read
    obtain ⟨last, reads, ht, hp⟩ := ofReport?_eq_ok_iff.1 read
    exact reads.tells ht hp

end Qos

namespace Sample

open Qos

/-- A report with the trust mode in the section of the flags. -/
def reportLines : List (List Char) :=
  ["DCBX mode: OS controlled".toList, "PFC configuration:".toList,
    "\tpriority    0   1   2   3   4   5   6   7".toList,
    "Priority trust state: DSCP\r".toList, "\tenabled     0   0   0   1   0   0   0   0".toList,
    "\tenabled     by hand".toList]

theorem report_reportLines : Report .dscp (.withEnabled [3]) reportLines := by
  have flags : FlagRow (.withEnabled [3]) "\tenabled     0   0   0   1   0   0   0   0".toList :=
    ⟨['\t'], "     0   0   0   1   0   0   0   0".toList, by decide, words_eq_iff.1 (by decide), rfl⟩
  have own : TrustLine .dscp "Priority trust state: DSCP\r".toList :=
    ⟨[], [' '], "DSCP".toList, ['\r'], by decide, by decide, by decide, by decide, rfl⟩
  have split : ["DCBX mode: OS controlled".toList, "PFC configuration:".toList,
        "\tpriority    0   1   2   3   4   5   6   7".toList] ++
      ["\tenabled     0   0   0   1   0   0   0   0".toList, "\tenabled     by hand".toList] =
      ["DCBX mode: OS controlled".toList] ++ "PFC configuration:".toList ::
        (["\tpriority    0   1   2   3   4   5   6   7".toList] ++
          "\tenabled     0   0   0   1   0   0   0   0".toList ::
            ["\tenabled     by hand".toList]) := rfl
  exact .printed split (by decide) flags own (by decide) (by decide)

end Sample

namespace Qos

/-- The settings in a small report are read, and the second row that begins like one of flags is
not. -/
theorem reportLines_read :
    ofReport? (join '\n' Sample.reportLines) = .ok (.dscp, .withEnabled [3]) ∧
      Tells (Text.lines (join '\n' Sample.reportLines)) .dscp (.withEnabled [3]) := by
  obtain ⟨inverts, tells⟩ := ofReport?_inverts_report
  have read := inverts _ _ _ Sample.report_reportLines (by decide)
  exact ⟨read, tells _ _ _ read⟩

end Qos

end NicKeeper
