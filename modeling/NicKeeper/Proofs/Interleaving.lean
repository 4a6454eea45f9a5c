import NicKeeper.Proofs.Runs

/-!
# Programs side by side

Two programs that run at the same time take turns at one state, call by call, in an order that
nothing is known about. `Interleaved` holds of every order, and `takeTurns` brings about the one
that it is told (`interleaved_takeTurns`).

A program has nothing to fear from its partner if there is a view of the state that decides the
answers to all of its own calls (`Within`) and that no call of the partner changes (`Beyond`). Then
it comes to what it comes to alone, and leaves in this view what it leaves there alone
(`Interleaved.first_alone`). The induction follows the order of the calls. The run alone starts from
any state that looks the same, because what the partner has done meanwhile is in the state but not
in the view.
-/

namespace NicKeeper.Program

variable {S T : Service} {α β σ ν : Type}

/-- The calls of two programs are answered in some order, each from the state that the ones before
it left, until both programs are done. -/
inductive Interleaved (one : Handler S σ) (other : Handler T σ) :
    Program S α → Program T β → σ → α × β → σ → Prop where
  | done (value : α) (value' : β) (state : σ) :
      Interleaved one other (.done value) (.done value') state (value, value') state
  | first {call : S.Call} {next : S.Answer call → Program S α} {partner : Program T β}
      {state after : σ} {values : α × β}
      (rest : Interleaved one other (next (one call state).1) partner (one call state).2 values
        after) :
      Interleaved one other (.ask call next) partner state values after
  | second {call : T.Call} {next : T.Answer call → Program T β} {program : Program S α}
      {state after : σ} {values : α × β}
      (rest : Interleaved one other program (next (other call state).1) (other call state).2 values
        after) :
      Interleaved one other program (.ask call next) state values after

variable {one : Handler S σ} {other : Handler T σ} {program : Program S α} {partner : Program T β}
  {state after after' : σ} {values values' : α × β}

theorem Interleaved.swap (h : Interleaved one other program partner state values after) :
    Interleaved other one partner program state values.swap after := by
  induction h with
  | done value value' state => exact .done value' value state
  | first _ ih => exact .second ih
  | second _ ih => exact .first ih

/-- Whose call is answered next. -/
inductive Turn where
  | first
  | second

/-- Answers the calls of two programs in the order of the turns, and then what is left of the first
program before what is left of the second. A turn of a program that is done is passed over. -/
def takeTurns (one : Handler S σ) (other : Handler T σ) :
    List Turn → Program S α → Program T β → σ → (α × β) × σ
  | .first :: turns, .ask call next, partner, state =>
    let (answer, state) := one call state
    takeTurns one other turns (next answer) partner state
  | .second :: turns, program, .ask call next, state =>
    let (answer, state) := other call state
    takeTurns one other turns program (next answer) state
  | .first :: turns, .done value, partner, state =>
    takeTurns one other turns (.done value) partner state
  | .second :: turns, program, .done value, state =>
    takeTurns one other turns program (.done value) state
  | [], program, partner, state =>
    let (value, state) := program.run one state
    let (value', state) := partner.run other state
    ((value, value'), state)

/-- One program after the other. -/
theorem interleaved_run (one : Handler S σ) (other : Handler T σ) (program : Program S α)
    (partner : Program T β) (state : σ) :
    Interleaved one other program partner state
      ((program.run one state).1, (partner.run other (program.run one state).2).1)
      (partner.run other (program.run one state).2).2 := by
  induction program generalizing state with
  | ask call next ih => exact .first (ih _ _)
  | done value =>
      induction partner generalizing state with
      | done value' => exact .done value value' state
      | ask call next ih => exact .second (ih _ _)

/-- Whatever the turns are, the programs come to an end. -/
theorem interleaved_takeTurns (one : Handler S σ) (other : Handler T σ) (turns : List Turn)
    (program : Program S α) (partner : Program T β) (state : σ) :
    Interleaved one other program partner state (takeTurns one other turns program partner state).1
      (takeTurns one other turns program partner state).2 := by
  induction turns generalizing program partner state with
  | nil => exact interleaved_run one other program partner state
  | cons turn turns ih =>
      match turn, program, partner with
      | .first, .ask call next, partner => exact .first (ih _ _ _)
      | .first, .done value, partner => exact ih _ _ _
      | .second, program, .ask call next => exact .second (ih _ _ _)
      | .second, program, .done value => exact ih _ _ _

/-! ## Views -/

/-- A view that decides how the allowed calls are answered, and what it shows after them. -/
def Within (handler : Handler S σ) (allowed : S.Call → Prop) (view : σ → ν) : Prop :=
  ∀ call, allowed call → ∀ state state', view state = view state' →
    (handler call state).1 = (handler call state').1 ∧
      view (handler call state).2 = view (handler call state').2

/-- A view of nothing that the allowed calls change. -/
def Beyond (handler : Handler S σ) (allowed : S.Call → Prop) (view : σ → ν) : Prop :=
  ∀ call, allowed call → ∀ state, view (handler call state).2 = view state

theorem Beyond.map {μ : Type} {handler : Handler S σ} {allowed : S.Call → Prop} {view : σ → ν}
    (h : Beyond handler allowed view) (part : ν → μ) :
    Beyond handler allowed fun state => part (view state) :=
  fun call own state => congrArg part (h call own state)

variable {mine : S.Call → Prop} {theirs : T.Call → Prop} {view : σ → ν}

theorem Only.head {call : S.Call} {next : S.Answer call → Program S α} (handler : Handler S σ)
    (state : σ) (h : Only mine (.ask call next)) : mine call :=
  h _ _ (runs_trace handler (.ask call next) state) _ List.mem_cons_self

theorem Only.tail {call : S.Call} {next : S.Answer call → Program S α}
    (h : Only mine (.ask call next)) (answer : S.Answer call) : Only mine (next answer) :=
  fun _ _ runs event mem => h _ _ (.ask runs) event (List.mem_cons_of_mem _ mem)

/-- A program comes to what it comes to alone, if its partner makes no call that its view shows. -/
theorem Interleaved.first_alone (h : Interleaved one other program partner state values after)
    (calls : Only mine program) (calls' : Only theirs partner) (own : Within one mine view)
    (foreign : Beyond other theirs view) {alone : σ} (same : view alone = view state) :
    values.1 = (program.run one alone).1 ∧ view after = view (program.run one alone).2 := by
  induction h generalizing alone with
  | done value value' state => exact ⟨rfl, same.symm⟩
  | @first call next partner state after values rest ih =>
      obtain ⟨answer, seen⟩ := own call (calls.head one state) alone state same
      rw [run_ask, answer]
      exact ih (calls.tail _) calls' seen
  | @second call next program state after values rest ih =>
      have unseen := foreign call (calls'.head other state) state
      exact ih calls (calls'.tail _) (same.trans unseen.symm)

theorem Interleaved.second_alone (h : Interleaved one other program partner state values after)
    (calls : Only mine program) (calls' : Only theirs partner) (own : Within other theirs view)
    (foreign : Beyond one mine view) :
    values.2 = (partner.run other state).1 ∧ view after = view (partner.run other state).2 :=
  h.swap.first_alone calls' calls own foreign rfl

/-- What neither program's calls change stays as it is. -/
theorem Interleaved.unseen (h : Interleaved one other program partner state values after)
    (calls : Only mine program) (calls' : Only theirs partner) (foreign : Beyond one mine view)
    (foreign' : Beyond other theirs view) : view after = view state := by
  induction h with
  | done value value' state => rfl
  | @first call next partner state after values rest ih =>
      exact (ih (calls.tail _) calls').trans (foreign call (calls.head one state) state)
  | @second call next program state after values rest ih =>
      exact (ih calls (calls'.tail _)).trans (foreign' call (calls'.head other state) state)

end NicKeeper.Program
