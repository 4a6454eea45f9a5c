import Mathlib.Algebra.Group.Nat.Defs
import NicKeeper.Daemon.Settings
import NicKeeper.Proofs.Numerals

/-!
# Which settings are accepted

Three variables can be wrong. The node's name has to be there, and each of the two lengths of time
has to be a number of seconds if it is set at all (`IsSeconds`): a numeral with blanks around it,
of at least one and in 64 bits. Unset is not the same as empty, which is a wrong number and no name.

Loading looks at the three in a fixed order and ends at the first one that is wrong (`Loading`). So
it succeeds exactly when none of them is, and what goes wrong is always told of the first
(`load_accepts_grammar`). As no number of seconds is zero and the default is not either, nothing
that is loaded lasts no time at all.
-/

namespace NicKeeper

namespace Settings

open Text (Blank Numeral trim unsigned?)

/-- The variables that can be wrong. -/
inductive Variable where
  | nodeName
  | discoveryInterval
  | hostCallLimit
  deriving DecidableEq, Repr

namespace Variable

def key : Variable → String
  | nodeName => "NODE_NAME"
  | discoveryInterval => "DISCOVERY_INTERVAL_SECS"
  | hostCallLimit => "HOST_CALL_TIMEOUT_SECS"

/-- The variables in the order in which they are looked at. -/
def all : List Variable := [nodeName, discoveryInterval, hostCallLimit]

end Variable

/-- A decimal numeral for at least one second and in 64 bits, with blanks around it. -/
def IsSeconds (value : String) (n : Nat) : Prop :=
  0 < n ∧ n < 2 ^ 64 ∧ ∃ lead numeral tail, Blank lead ∧ Blank tail ∧ Numeral n numeral ∧
    value.toList = lead ++ numeral ++ tail

/-- What the value of a variable for a length of time comes to. -/
inductive Lasts : Option String → Option Duration → Prop where
  | unset : Lasts none none
  | seconds {value : String} {n : Nat} (own : IsSeconds value n) :
      Lasts (some value) (some (.ofSeconds n))

/-- Whether a variable may have a value, or have none. -/
def Variable.Accepts : Variable → Option String → Prop
  | nodeName, value? => ∃ name, value? = some name ∧ name ≠ ""
  | discoveryInterval, value? => ∃ duration?, Lasts value? duration?
  | hostCallLimit, value? => ∃ duration?, Lasts value? duration?

/-- What is wrong with a variable that has this value, or has none. -/
inductive Blames : SettingsFault → Variable → Option String → Prop where
  | nodeName (value? : Option String) : Blames .noNodeName .nodeName value?
  | seconds (v : Variable) (timed : v ≠ .nodeName) (value : String) :
      Blames (.notPositiveSeconds v.key value) v (some value)

variable {lookup : String → Option String} {key value : String}
  {value? : Option String} {duration? : Option Duration} {fault : SettingsFault}

/-! ## Single variables -/

theorem unsigned?_trim_eq_some_iff {n : Nat} :
    unsigned? 10 (Nat.pow 2 64) (trim value.toList) = some n ↔
      n < 2 ^ 64 ∧ ∃ lead numeral tail, Blank lead ∧ Blank tail ∧ Numeral n numeral ∧
        value.toList = lead ++ numeral ++ tail := by
  rw [Text.unsigned?_eq_some_iff, and_comm]
  refine and_congr_right fun _ => ⟨fun own => ?_, ?_⟩
  · obtain ⟨lead, tail, before, behind, split⟩ := Text.exists_trim value.toList
    exact ⟨lead, _, tail, before, behind, own, split⟩
  · rintro ⟨lead, numeral, tail, before, behind, own, split⟩
    rw [split, Text.trim_padded before behind, own.isWord.firm.trim_eq]
    exact own

theorem isSeconds_iff {n : Nat} :
    IsSeconds value n ↔ 0 < n ∧ unsigned? 10 (Nat.pow 2 64) (trim value.toList) = some n :=
  and_congr_right fun _ => unsigned?_trim_eq_some_iff.symm

theorem seconds?_cases (key value : String) :
    (∃ n, IsSeconds value n ∧ seconds? key value = .ok (.ofSeconds n)) ∨
      (¬ ∃ n, IsSeconds value n) ∧ seconds? key value = .error (.notPositiveSeconds key value) := by
  simp only [isSeconds_iff]
  rw [seconds?]
  split
  · next n read => exact .inl ⟨n + 1, ⟨n.succ_pos, read⟩, rfl⟩
  · next other =>
      refine .inr ⟨?_, rfl⟩
      rintro ⟨n, some, read⟩
      obtain ⟨m, rfl⟩ := Nat.exists_eq_succ_of_ne_zero some.ne'
      exact other m read

theorem optionalSeconds?_cases (lookup : String → Option String) (key : String) :
    (∃ duration?, Lasts (lookup key) duration? ∧ optionalSeconds? lookup key = .ok duration?) ∨
      (¬ ∃ duration?, Lasts (lookup key) duration?) ∧ ∃ value, lookup key = some value ∧
        optionalSeconds? lookup key = .error (.notPositiveSeconds key value) := by
  rw [optionalSeconds?]
  cases lookup key with
  | none => exact .inl ⟨none, .unset, rfl⟩
  | some value =>
      rcases seconds?_cases key value with ⟨n, own, read⟩ | ⟨wrong, read⟩
      · exact .inl ⟨_, .seconds own, congrArg (Except.map some) read⟩
      · refine .inr ⟨?_, value, rfl, congrArg (Except.map some) read⟩
        rintro ⟨_, lasts⟩
        cases lasts with
        | seconds own => exact wrong ⟨_, own⟩

theorem nonEmpty?_eq_some_iff {name : String} :
    nonEmpty? lookup key = some name ↔ lookup key = some name ∧ name ≠ "" := by
  rw [nonEmpty?, Option.filter_eq_some_iff, decide_eq_true_eq]

/-! ## All of them -/

/-- What loading ends in. -/
inductive Loading (lookup : String → Option String) : Except SettingsFault Settings → Prop where
  | wrong {before after : List Variable} {v : Variable} {fault : SettingsFault}
      (order : Variable.all = before ++ v :: after)
      (earlier : ∀ other ∈ before, other.Accepts (lookup other.key))
      (own : ¬ v.Accepts (lookup v.key)) (blames : Blames fault v (lookup v.key)) :
      Loading lookup (.error fault)
  | loaded {name : String} {interval? limit? : Option Duration}
      (named : lookup "NODE_NAME" = some name) (some : name ≠ "")
      (interval : Lasts (lookup "DISCOVERY_INTERVAL_SECS") interval?)
      (limit : Lasts (lookup "HOST_CALL_TIMEOUT_SECS") limit?) :
      Loading lookup (.ok {
        nodeName := name
        nspace := (nonEmpty? lookup "WATCH_NAMESPACE").getD defaultNamespace
        discoveryInterval := interval?.getD defaultInterval
        hostCallLimit := limit?
        sysfsRoot := (lookup "SYSFS_ROOT").getD defaultSysfsRoot })

theorem loading_load (lookup : String → Option String) : Loading lookup (load lookup) := by
  rw [load]
  cases named : nonEmpty? lookup "NODE_NAME" with
  | none =>
      have order : Variable.all =
        [] ++ .nodeName :: [.discoveryInterval, .hostCallLimit] := rfl
      refine .wrong order (List.forall_mem_nil _) ?_ (.nodeName _)
      rintro ⟨name, found, some⟩
      cases named.symm.trans (nonEmpty?_eq_some_iff.2 ⟨found, some⟩)
  | some name =>
      obtain ⟨found, some⟩ := nonEmpty?_eq_some_iff.1 named
      have nameAccepted : Variable.nodeName.Accepts (lookup "NODE_NAME") := ⟨name, found, some⟩
      rcases optionalSeconds?_cases lookup "DISCOVERY_INTERVAL_SECS" with
        ⟨interval?, interval, read⟩ | ⟨wrong, value, set, read⟩
      · rcases optionalSeconds?_cases lookup "HOST_CALL_TIMEOUT_SECS" with
          ⟨limit?, limit, readLimit⟩ | ⟨wrong, value, set, readLimit⟩
        · rw [read, readLimit]
          exact .loaded found some interval limit
        · have order : Variable.all =
            [.nodeName, .discoveryInterval] ++ .hostCallLimit :: [] := rfl
          have blames : Blames (.notPositiveSeconds "HOST_CALL_TIMEOUT_SECS" value) .hostCallLimit
              (lookup "HOST_CALL_TIMEOUT_SECS") := set ▸ .seconds .hostCallLimit nofun value
          rw [read, readLimit]
          exact .wrong order (by simpa using ⟨nameAccepted, interval?, interval⟩) wrong blames
      · have order : Variable.all = [.nodeName] ++ .discoveryInterval :: [.hostCallLimit] := rfl
        have blames : Blames (.notPositiveSeconds "DISCOVERY_INTERVAL_SECS" value)
            .discoveryInterval (lookup "DISCOVERY_INTERVAL_SECS") :=
          set ▸ .seconds .discoveryInterval nofun value
        rw [read]
        exact .wrong order (List.forall_mem_singleton.2 nameAccepted) wrong blames

/-! ## What that means -/

theorem IsSeconds.pos {n : Nat} (h : IsSeconds value n) : Duration.zero < .ofSeconds n :=
  Nat.mul_pos h.1 (by decide)

theorem Lasts.pos (h : Lasts value? duration?) : ∀ duration ∈ duration?, .zero < duration := by
  cases h with
  | unset => nofun
  | seconds own =>
      rintro _ ⟨⟩
      exact own.pos

theorem Lasts.pos_getD (h : Lasts value? duration?) {default : Duration}
    (some : .zero < default) : .zero < duration?.getD default := by
  cases h with
  | unset => exact some
  | seconds own => exact own.pos

/-- What is said of a wrong variable begins with its name. -/
theorem Blames.key_prefix {v : Variable} (h : Blames fault v value?) :
    v.key.toList <+: fault.message.toList := by
  cases h with
  | nodeName => decide
  | seconds v timed value =>
      rw [SettingsFault.message]
      simp only [String.toList_append, List.append_assoc]
      exact List.prefix_append _ _

/-- Settings are loaded exactly when the node's name is given and each length of time is unset or a
number of seconds. They last as long as was asked for, and never no time at all. What goes wrong is
told of the first variable that is wrong. -/
theorem load_accepts_grammar (lookup : String → Option String) :
    ((∃ settings, load lookup = .ok settings) ↔ ∀ v : Variable, v.Accepts (lookup v.key)) ∧
      (∀ settings, load lookup = .ok settings →
        lookup "NODE_NAME" = some settings.nodeName ∧
        (∃ interval?, Lasts (lookup "DISCOVERY_INTERVAL_SECS") interval? ∧
          settings.discoveryInterval = interval?.getD (.ofSeconds 300)) ∧
        Lasts (lookup "HOST_CALL_TIMEOUT_SECS") settings.hostCallLimit ∧
        .zero < settings.discoveryInterval ∧ ∀ limit ∈ settings.hostCallLimit, .zero < limit) ∧
      ∀ fault, load lookup = .error fault → ∃ before v after,
        Variable.all = before ++ v :: after ∧
        (∀ other ∈ before, other.Accepts (lookup other.key)) ∧ ¬ v.Accepts (lookup v.key) ∧
        Blames fault v (lookup v.key) ∧ v.key.toList <+: fault.message.toList := by
  have loading := loading_load lookup
  generalize load lookup = result at loading
  cases loading with
  | wrong order earlier own blames =>
      refine ⟨⟨nofun, fun all => absurd (all _) own⟩, nofun, ?_⟩
      intro fault same
      cases same
      exact ⟨_, _, _, order, earlier, own, blames, blames.key_prefix⟩
  | loaded named some interval limit =>
      refine ⟨⟨fun _ => ?_, fun _ => ⟨_, rfl⟩⟩, ?_, nofun⟩
      · rintro ⟨⟩
        · exact ⟨_, named, some⟩
        · exact ⟨_, interval⟩
        · exact ⟨_, limit⟩
      · intro settings same
        cases same
        exact ⟨named, ⟨_, interval, rfl⟩, limit, interval.pos_getD (by decide), limit.pos⟩

end Settings

namespace Sample

/-- Variables of a node with these lengths of time. -/
def environment (interval limit : Option String) : String → Option String
  | "NODE_NAME" => some "worker-1"
  | "DISCOVERY_INTERVAL_SECS" => interval
  | "HOST_CALL_TIMEOUT_SECS" => limit
  | _ => none

end Sample

namespace Settings

/-- The largest number of seconds is loaded, with zeros, a sign and blanks around it. One more is
too many for a limit, but the empty interval is told of first. -/
theorem longest_limit_loaded :
    load (Sample.environment none (some "\u2003+0018446744073709551615\n")) = .ok {
        nodeName := "worker-1", nspace := "nic-configuration-operator"
        discoveryInterval := .ofSeconds 300
        hostCallLimit := some (.ofSeconds 18446744073709551615), sysfsRoot := "/sys" } ∧
      Lasts (some "\u2003+0018446744073709551615\n") (some (.ofSeconds 18446744073709551615)) ∧
      load (Sample.environment (some "") (some "18446744073709551616")) =
        .error (.notPositiveSeconds "DISCOVERY_INTERVAL_SECS" "") ∧
      ∃ before v after, Variable.all = before ++ v :: after ∧
        (∀ other ∈ before, other.Accepts
          (Sample.environment (some "") (some "18446744073709551616") other.key)) ∧
        ¬ v.Accepts (Sample.environment (some "") (some "18446744073709551616") v.key) := by
  have loaded : load (Sample.environment none (some "\u2003+0018446744073709551615\n")) = .ok {
      nodeName := "worker-1", nspace := "nic-configuration-operator"
      discoveryInterval := .ofSeconds 300
      hostCallLimit := some (.ofSeconds 18446744073709551615), sysfsRoot := "/sys" } := by
    decide +kernel
  have refused : load (Sample.environment (some "") (some "18446744073709551616")) =
      .error (.notPositiveSeconds "DISCOVERY_INTERVAL_SECS" "") := by
    decide +kernel
  obtain ⟨-, lasts, -⟩ := load_accepts_grammar
    (Sample.environment none (some "\u2003+0018446744073709551615\n"))
  obtain ⟨-, -, first⟩ := load_accepts_grammar
    (Sample.environment (some "") (some "18446744073709551616"))
  obtain ⟨before, v, after, order, earlier, own, -, -⟩ := first _ refused
  exact ⟨loaded, (lasts _ loaded).2.2.1, refused, before, v, after, order, earlier, own⟩

end Settings

end NicKeeper
