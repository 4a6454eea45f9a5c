import NicKeeper.Program

/-!
# Runs of a program

What a program does is told by the calls it makes and the answers it gets. `Runs` leaves the
answers open: it holds of every list of calls and answers that some service could have brought
about, a service that fails or contradicts itself included. A statement about all runs is therefore
one about every behaviour of the service.

A handler fixes the answers. Its run is one of these runs (`runs_trace`), the only one whose answers
follow from the handler's states (`run_eq_of_runs`). So what is found out about runs holds of
handlers too.
-/

namespace NicKeeper

/-- A call that was made and the answer to it. -/
structure Event (S : Service) where
  call : S.Call
  answer : S.Answer call

namespace Program

variable {S T : Service} {α β ε σ : Type}

/-- The program makes the calls of `events`, in this order, and ends in `value` if they are answered
as the events say. -/
inductive Runs : Program S α → List (Event S) → α → Prop where
  | done (value : α) : Runs (.done value) [] value
  | ask {call : S.Call} {next : S.Answer call → Program S α} {answer : S.Answer call}
      {events : List (Event S)} {value : α} (rest : Runs (next answer) events value) :
      Runs (.ask call next) (⟨call, answer⟩ :: events) value

theorem runs_done_iff {value result : α} {events : List (Event S)} :
    (Program.done value).Runs events result ↔ events = [] ∧ result = value := by
  constructor
  · intro h
    cases h
    exact ⟨rfl, rfl⟩
  · rintro ⟨rfl, rfl⟩
    exact .done _

theorem runs_ask_iff {call : S.Call} {next : S.Answer call → Program S α}
    {events : List (Event S)} {result : α} :
    (Program.ask call next).Runs events result ↔
      ∃ answer rest, events = ⟨call, answer⟩ :: rest ∧ (next answer).Runs rest result := by
  constructor
  · intro h
    cases h with
    | ask rest => exact ⟨_, _, rfl, rest⟩
  · rintro ⟨answer, rest, rfl, h⟩
    exact .ask h

/-- A program that asks once comes to what it makes of the answer. -/
theorem runs_ask_done_iff {call : S.Call} {read : S.Answer call → α} {events : List (Event S)}
    {result : α} :
    (Program.ask call fun answer => .done (read answer)).Runs events result ↔
      ∃ answer, events = [⟨call, answer⟩] ∧ result = read answer := by
  constructor
  · intro h
    obtain ⟨answer, rest, rfl, last⟩ := runs_ask_iff.1 h
    obtain ⟨rfl, rfl⟩ := runs_done_iff.1 last
    exact ⟨answer, rfl, rfl⟩
  · rintro ⟨answer, rfl, rfl⟩
    exact .ask (.done _)

theorem runs_bind_iff {program : Program S α} {next : α → Program S β}
    {events : List (Event S)} {result : β} :
    (program.bind next).Runs events result ↔
      ∃ value first last, events = first ++ last ∧ program.Runs first value ∧
        (next value).Runs last result := by
  induction program generalizing events with
  | done value =>
      rw [done_bind]
      constructor
      · intro h
        exact ⟨value, [], events, rfl, .done value, h⟩
      · rintro ⟨_, first, last, rfl, h, hl⟩
        obtain ⟨rfl, rfl⟩ := runs_done_iff.1 h
        exact hl
  | ask call rest ih =>
      rw [ask_bind, runs_ask_iff]
      constructor
      · rintro ⟨answer, others, rfl, h⟩
        obtain ⟨value, first, last, rfl, hf, hl⟩ := ih answer |>.1 h
        exact ⟨value, _, last, rfl, .ask hf, hl⟩
      · rintro ⟨value, first, last, rfl, hf, hl⟩
        obtain ⟨answer, others, rfl, hr⟩ := runs_ask_iff.1 hf
        exact ⟨answer, others ++ last, rfl, ih answer |>.2 ⟨value, _, _, rfl, hr, hl⟩⟩

theorem Runs.then_done {program : Program S α} {first last : List (Event S)} {value : α}
    {result found : β} (h : program.Runs first value)
    (done : (Program.done found).Runs last result) :
    program.Runs (first ++ last) value ∧ result = found := by
  obtain ⟨rfl, rfl⟩ := runs_done_iff.1 done
  rw [List.append_nil]
  exact ⟨h, rfl⟩

/-! ## What a run ends in -/

/-- What a program ends in if its calls are the ones that the events tell of, answered so. -/
def answer? [DecidableEq S.Call] : Program S α → List (Event S) → Option α
  | .done value, [] => some value
  | .done _, _ :: _ => none
  | .ask _ _, [] => none
  | .ask call next, event :: rest =>
    if same : event.call = call then (next (same ▸ event.answer)).answer? rest else none

/-- The events of a run tell what it ends in. -/
theorem runs_iff_answer? [DecidableEq S.Call] {program : Program S α} {events : List (Event S)}
    {value : α} : program.Runs events value ↔ program.answer? events = some value := by
  induction program generalizing events with
  | done found =>
      rw [runs_done_iff]
      cases events with
      | nil => simp [answer?, eq_comm]
      | cons event rest => simp [answer?]
  | ask call next ih =>
      rw [runs_ask_iff]
      cases events with
      | nil => simp [answer?]
      | cons event rest =>
          obtain ⟨made, given⟩ := event
          rw [answer?]
          constructor
          · rintro ⟨answer, others, same, h⟩
            cases same
            rw [dif_pos rfl]
            exact (ih answer).1 h
          · intro h
            split at h
            · next same =>
                cases same
                exact ⟨given, rest, rfl, (ih given).2 h⟩
            · cases h

/-! ## Programs that may end in an error -/

/-- A run of two steps ends with the first one's error, or goes through both. -/
theorem runs_bindT_iff {program : ExceptT ε (Program S) α}
    {next : α → ExceptT ε (Program S) β} {events : List (Event S)} {result : Except ε β} :
    (program >>= next).run.Runs events result ↔
      (∃ e, result = .error e ∧ program.run.Runs events (.error e)) ∨
        ∃ value first last, events = first ++ last ∧ program.run.Runs first (.ok value) ∧
          (next value).run.Runs last result := by
  show (program.run.bind _).Runs events result ↔ _
  rw [runs_bind_iff]
  constructor
  · rintro ⟨value, first, last, rfl, hf, hl⟩
    cases value with
    | ok value => exact .inr ⟨value, first, last, rfl, hf, hl⟩
    | error e =>
        obtain ⟨rfl, rfl⟩ := runs_done_iff.1 hl
        exact .inl ⟨e, rfl, by simpa using hf⟩
  · rintro (⟨e, rfl, h⟩ | ⟨value, first, last, rfl, hf, hl⟩)
    · exact ⟨.error e, events, [], by simp, h, .done _⟩
    · exact ⟨.ok value, first, last, rfl, hf, hl⟩

theorem runs_bindT_ok {program : ExceptT ε (Program S) α} {next : α → ExceptT ε (Program S) β}
    {events : List (Event S)} {result : β} (h : (program >>= next).run.Runs events (.ok result)) :
    ∃ value first last, events = first ++ last ∧ program.run.Runs first (.ok value) ∧
      (next value).run.Runs last (.ok result) := by
  rcases runs_bindT_iff.1 h with ⟨_, no, -⟩ | both
  · cases no
  · exact both

theorem runs_bindT_error {program : ExceptT ε (Program S) α}
    {next : α → ExceptT ε (Program S) β} {events : List (Event S)} {e : ε}
    (h : (program >>= next).run.Runs events (.error e)) :
    program.run.Runs events (.error e) ∨
      ∃ value first last, events = first ++ last ∧ program.run.Runs first (.ok value) ∧
        (next value).run.Runs last (.error e) := by
  rcases runs_bindT_iff.1 h with ⟨_, eq, early⟩ | both
  · cases eq
    exact .inl early
  · exact .inr both

theorem runs_pureT_iff {value : α} {events : List (Event S)} {result : Except ε α} :
    (pure value : ExceptT ε (Program S) α).run.Runs events result ↔
      events = [] ∧ result = .ok value :=
  runs_done_iff

theorem runs_mapT {f : α → β} {program : ExceptT ε (Program S) α} {events : List (Event S)}
    {result : Except ε β} (h : (f <$> program).run.Runs events result) :
    ∃ found, program.run.Runs events found ∧ result = found.map f := by
  obtain ⟨found, first, last, rfl, hf, hl⟩ := runs_bind_iff.1 h
  cases found with
  | ok value => exact ⟨_, hf.then_done hl⟩
  | error e => exact ⟨_, hf.then_done hl⟩

/-! ## The calls that a program can make -/

section Only

variable {allowed : S.Call → Prop}

/-- However its calls are answered, the program makes no others than the allowed ones. -/
def Only (allowed : S.Call → Prop) (program : Program S α) : Prop :=
  ∀ events value, program.Runs events value → ∀ event ∈ events, allowed event.call

theorem only_done (value : α) : Only allowed (.done value : Program S α) := by
  intro events result h event mem
  obtain ⟨rfl, -⟩ := runs_done_iff.1 h
  cases mem

theorem only_ask {call : S.Call} {next : S.Answer call → Program S α} (own : allowed call)
    (rest : ∀ answer, Only allowed (next answer)) : Only allowed (.ask call next) := by
  intro events result h event mem
  obtain ⟨answer, others, rfl, hr⟩ := runs_ask_iff.1 h
  rcases List.mem_cons.1 mem with rfl | mem
  · exact own
  · exact rest answer others result hr event mem

theorem Only.bind {program : Program S α} {next : α → Program S β} (first : Only allowed program)
    (rest : ∀ value, Only allowed (next value)) : Only allowed (program.bind next) := by
  intro events result h event mem
  obtain ⟨value, before, after, rfl, hf, hl⟩ := runs_bind_iff.1 h
  rcases List.mem_append.1 mem with mem | mem
  · exact first before value hf event mem
  · exact rest value after result hl event mem

theorem Only.bindT {program : ExceptT ε (Program S) α} {next : α → ExceptT ε (Program S) β}
    (first : Only allowed program.run) (rest : ∀ value, Only allowed (next value).run) :
    Only allowed (program >>= next).run := by
  refine Only.bind first fun found => ?_
  cases found with
  | error e => exact only_done _
  | ok value => exact rest value

theorem Only.mono {wider : S.Call → Prop} {program : Program S α} (h : Only allowed program)
    (wide : ∀ call, allowed call → wider call) : Only wider program :=
  fun events value runs event mem => wide _ (h events value runs event mem)

end Only

/-! ## Programs in the place of calls -/

theorem interpret_bind (via : (call : S.Call) → Program T (S.Answer call)) (program : Program S α)
    (next : α → Program S β) :
    (program.bind next).interpret via =
      (program.interpret via).bind fun value => (next value).interpret via := by
  induction program with
  | done value => rfl
  | ask call rest ih =>
      rw [ask_bind, interpret, interpret, bind_assoc]
      exact congrArg _ (funext ih)

/-- Each call of a program over `S`, with its answer, is a step of the run in which programs over
`T` stand in the calls' places. -/
theorem runs_interpret_iff {via : (call : S.Call) → Program T (S.Answer call)}
    {program : Program S α} {events : List (Event T)} {result : α} :
    (program.interpret via).Runs events result ↔
      ∃ steps : List (Event S × List (Event T)),
        program.Runs (steps.map Prod.fst) result ∧ events = (steps.map Prod.snd).flatten ∧
          ∀ step ∈ steps, (via step.1.call).Runs step.2 step.1.answer := by
  induction program generalizing events with
  | done value =>
      rw [interpret, runs_done_iff]
      constructor
      · rintro ⟨rfl, rfl⟩
        exact ⟨[], .done _, rfl, by simp⟩
      · rintro ⟨steps, h, rfl, -⟩
        obtain ⟨hs, rfl⟩ := runs_done_iff.1 h
        rw [List.map_eq_nil_iff] at hs
        subst hs
        exact ⟨rfl, rfl⟩
  | ask call next ih =>
      rw [interpret, runs_bind_iff]
      constructor
      · rintro ⟨answer, first, last, rfl, hf, hl⟩
        obtain ⟨steps, h, rfl, all⟩ := ih answer |>.1 hl
        refine ⟨(⟨call, answer⟩, first) :: steps, .ask h, by simp, fun step mem => ?_⟩
        rcases List.mem_cons.1 mem with rfl | mem
        · exact hf
        · exact all step mem
      · rintro ⟨steps, h, rfl, all⟩
        obtain ⟨answer, rest, hs, hr⟩ := runs_ask_iff.1 h
        obtain ⟨step, others, rfl, hstep, rfl⟩ := List.map_eq_cons_iff.1 hs
        obtain ⟨event, inner⟩ := step
        subst hstep
        have hl : ((next answer).interpret via).Runs (others.map Prod.snd).flatten result :=
          ih answer |>.2 ⟨others, hr, rfl, fun step mem => all step (List.mem_cons_of_mem _ mem)⟩
        exact ⟨answer, inner, _, by simp, all _ List.mem_cons_self, hl⟩

theorem Only.interpret {outer : S.Call → Prop} {inner : T.Call → Prop}
    {via : (call : S.Call) → Program T (S.Answer call)} {program : Program S α}
    (h : Only outer program) (each : ∀ call, outer call → Only inner (via call)) :
    Only inner (program.interpret via) := by
  intro events value runs event mem
  obtain ⟨steps, whole, rfl, all⟩ := runs_interpret_iff.1 runs
  obtain ⟨own, among, mem⟩ := List.mem_flatten.1 mem
  obtain ⟨step, made, rfl⟩ := List.mem_map.1 among
  have permitted := h _ _ whole _ (List.mem_map_of_mem made)
  exact each _ permitted _ _ (all step made) event mem

/-! ## Handlers -/

/-- The events are answered as `handler` does from the state `before`, and leave it in `after`. -/
def Follows (handler : Handler S σ) : (before : σ) → List (Event S) → (after : σ) → Prop
  | before, [], after => after = before
  | before, event :: rest, after =>
    event.answer = (handler event.call before).1 ∧
      Follows handler (handler event.call before).2 rest after

/-- The events of a program's run. -/
def trace (handler : Handler S σ) : Program S α → σ → List (Event S)
  | .done _, _ => []
  | .ask call next, state =>
    let (answer, state) := handler call state
    ⟨call, answer⟩ :: (next answer).trace handler state

theorem trace_ask (handler : Handler S σ) (call : S.Call) (next : S.Answer call → Program S α)
    (state : σ) :
    (Program.ask call next).trace handler state = ⟨call, (handler call state).1⟩ ::
      (next (handler call state).1).trace handler (handler call state).2 := rfl

theorem trace_bind (handler : Handler S σ) (program : Program S α) (next : α → Program S β)
    (state : σ) :
    (program.bind next).trace handler state = program.trace handler state ++
      (next (program.run handler state).1).trace handler (program.run handler state).2 := by
  induction program generalizing state with
  | done value => rfl
  | ask call rest ih => exact congrArg (List.cons _) (ih _ _)

theorem runs_trace (handler : Handler S σ) (program : Program S α) (state : σ) :
    program.Runs (program.trace handler state) (program.run handler state).1 := by
  induction program generalizing state with
  | done value => exact .done value
  | ask call next ih => exact .ask (ih _ _)

theorem follows_trace (handler : Handler S σ) (program : Program S α) (state : σ) :
    Follows handler state (program.trace handler state) (program.run handler state).2 := by
  induction program generalizing state with
  | done value => rfl
  | ask call next ih => exact ⟨rfl, ih _ _⟩

theorem run_bindT_of_ok {handler : Handler S σ} {program : ExceptT ε (Program S) α}
    {next : α → ExceptT ε (Program S) β} {before mid : σ} {value : α}
    (h : program.run.run handler before = (.ok value, mid)) :
    (program >>= next).run.run handler before = (next value).run.run handler mid := by
  show (program.run.bind _).run handler before = _
  rw [run_bind, h]
  rfl

theorem run_bindT_of_error {handler : Handler S σ} {program : ExceptT ε (Program S) α}
    {next : α → ExceptT ε (Program S) β} {before mid : σ} {e : ε}
    (h : program.run.run handler before = (.error e, mid)) :
    (program >>= next).run.run handler before = (.error e, mid) := by
  show (program.run.bind _).run handler before = _
  rw [run_bind, h]
  rfl

theorem trace_bindT_of_ok {handler : Handler S σ} {program : ExceptT ε (Program S) α}
    {next : α → ExceptT ε (Program S) β} {before mid : σ} {value : α}
    (h : program.run.run handler before = (.ok value, mid)) :
    (program >>= next).run.trace handler before =
      program.run.trace handler before ++ (next value).run.trace handler mid := by
  show (program.run.bind _).trace handler before = _
  rw [trace_bind, h]
  rfl

theorem run_eq_of_runs {handler : Handler S σ} {program : Program S α} {events : List (Event S)}
    {result : α} {before after : σ} (h : program.Runs events result)
    (follows : Follows handler before events after) :
    program.run handler before = (result, after) := by
  induction h generalizing before with
  | done value =>
      obtain rfl : after = before := follows
      rfl
  | @ask call next answer events value rest ih =>
      have answered : answer = (handler call before).1 := follows.1
      rw [run_ask, ← answered]
      exact ih follows.2

/-! ## Parts of a run -/

section Parts

variable {handler : Handler S σ} {before after : σ} {first last : List (Event S)}

/-- The events of a run tell what it ends in. -/
theorem Runs.unique {program : Program S α} {events : List (Event S)} {value other : α}
    (h : program.Runs events value) (again : program.Runs events other) : other = value := by
  induction h with
  | done value => exact (runs_done_iff.1 again).2
  | ask rest ih =>
      obtain ⟨answer, others, same, again⟩ := runs_ask_iff.1 again
      cases same
      exact ih again

theorem follows_append_iff :
    Follows handler before (first ++ last) after ↔
      ∃ mid, Follows handler before first mid ∧ Follows handler mid last after := by
  induction first generalizing before with
  | nil =>
      constructor
      · exact fun h => ⟨before, rfl, h⟩
      · rintro ⟨_, rfl, h⟩
        exact h
  | cons event rest ih =>
      constructor
      · rintro ⟨answered, h⟩
        obtain ⟨mid, hf, hl⟩ := ih.1 h
        exact ⟨mid, ⟨answered, hf⟩, hl⟩
      · rintro ⟨mid, ⟨answered, hf⟩, hl⟩
        exact ⟨answered, ih.2 ⟨mid, hf, hl⟩⟩

theorem runs_of_trace {program : Program S α} {events : List (Event S)} {state : σ} {result : α}
    (told : program.trace handler state = events) (ends : (program.run handler state).1 = result) :
    program.Runs events result := by
  rw [← told, ← ends]
  exact runs_trace handler program state

theorem follows_of_trace {program : Program S α} {events : List (Event S)} {state : σ}
    (told : program.trace handler state = events) :
    Follows handler state events (program.run handler state).2 := by
  rw [← told]
  exact follows_trace handler program state

/-- The state after the calls that events tell of. -/
def replay (handler : Handler S σ) (state : σ) (events : List (Event S)) : σ :=
  events.foldl (fun state event => (handler event.call state).2) state

theorem Follows.eq_replay (h : Follows handler before first after) :
    after = replay handler before first := by
  induction first generalizing before with
  | nil => exact h
  | cons event rest ih => exact ih h.2

/-- What every call keeps that was made, all calls keep. -/
theorem Follows.keeps {motive : σ → σ → Prop} (refl : ∀ state, motive state state)
    (trans : ∀ {a b c}, motive a b → motive b c → motive a c)
    (step : ∀ event ∈ first, ∀ state, motive state (handler event.call state).2)
    (h : Follows handler before first after) : motive before after := by
  induction first generalizing before with
  | nil =>
      obtain rfl : after = before := h
      exact refl _
  | cons event rest ih =>
      obtain ⟨own, others⟩ := List.forall_mem_cons.1 step
      exact trans (own before) (ih others h.2)

end Parts

end Program

end NicKeeper
