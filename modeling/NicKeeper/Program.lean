/-!
# Programs that ask

A controller is written as data: a tree that either is done or makes one call and goes on with the
answer. What the answers are is decided elsewhere, so one and the same program runs against a host
in memory, against a node's files and tools, or against answers that nothing is known about.

`Program.run` answers the calls of a program from a state, one after the other, and
`Program.interpret` puts a program over another service in the place of each call. Running the
result is running the program itself under the handler that runs what stands in each call's place
(`run_interpret`).
-/

namespace NicKeeper

/-- The calls that can be made to something, and the type of each call's answer. -/
structure Service where
  Call : Type
  Answer : Call → Type

/-- A computation that makes calls to `S` and ends in an `α`. -/
inductive Program (S : Service) (α : Type) where
  | done (value : α)
  | ask (call : S.Call) (next : S.Answer call → Program S α)

/-- Answers every call of `S` and moves from state to state while doing so. -/
abbrev Handler (S : Service) (σ : Type) :=
  (call : S.Call) → σ → S.Answer call × σ

namespace Program

variable {S T : Service} {α β γ σ : Type}

def bind (program : Program S α) (next : α → Program S β) : Program S β :=
  match program with
  | .done value => next value
  | .ask call rest => .ask call fun answer => (rest answer).bind next

instance : Monad (Program S) where
  pure := .done
  bind := bind

def call (request : S.Call) : Program S (S.Answer request) :=
  .ask request .done

/-- Answers the calls of a program in order, from the given state. -/
def run (handler : Handler S σ) : Program S α → σ → α × σ
  | .done value, state => (value, state)
  | .ask request next, state =>
    let (answer, state) := handler request state
    (next answer).run handler state

/-- Puts a program over another service in the place of each call. -/
def interpret (via : (request : S.Call) → Program T (S.Answer request)) :
    Program S α → Program T α
  | .done value => .done value
  | .ask request next => (via request).bind fun answer => (next answer).interpret via

@[simp] theorem pure_eq (value : α) : (pure value : Program S α) = .done value := rfl

@[simp] theorem bind_eq (program : Program S α) (next : α → Program S β) :
    program >>= next = program.bind next := rfl

@[simp] theorem done_bind (value : α) (next : α → Program S β) :
    (Program.done value).bind next = next value := rfl

@[simp] theorem ask_bind (request : S.Call) (rest : S.Answer request → Program S α)
    (next : α → Program S β) :
    (Program.ask request rest).bind next = .ask request fun answer => (rest answer).bind next := rfl

theorem bind_done (program : Program S α) : program.bind .done = program := by
  induction program with
  | done value => rfl
  | ask request rest ih => simp [ih]

theorem bind_assoc (program : Program S α) (next : α → Program S β) (last : β → Program S γ) :
    (program.bind next).bind last = program.bind fun value => (next value).bind last := by
  induction program with
  | done value => rfl
  | ask request rest ih => simp [ih]

instance : LawfulMonad (Program S) :=
  LawfulMonad.mk' (Program S) bind_done (fun _ _ => rfl) bind_assoc

@[simp] theorem run_done (handler : Handler S σ) (value : α) (state : σ) :
    (Program.done value).run handler state = (value, state) := rfl

@[simp] theorem run_ask (handler : Handler S σ) (request : S.Call)
    (next : S.Answer request → Program S α) (state : σ) :
    (Program.ask request next).run handler state =
      (next (handler request state).1).run handler (handler request state).2 := rfl

theorem run_bind (handler : Handler S σ) (program : Program S α) (next : α → Program S β)
    (state : σ) :
    (program.bind next).run handler state =
      (next (program.run handler state).1).run handler (program.run handler state).2 := by
  induction program generalizing state with
  | done value => rfl
  | ask request rest ih => simp [ih]

theorem run_interpret (handler : Handler T σ)
    (via : (request : S.Call) → Program T (S.Answer request)) (program : Program S α) (state : σ) :
    (program.interpret via).run handler state =
      program.run (fun request => (via request).run handler) state := by
  induction program generalizing state with
  | done value => rfl
  | ask request next ih => simp [interpret, run_bind, ih]

end Program

end NicKeeper
