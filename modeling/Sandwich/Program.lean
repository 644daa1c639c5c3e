import Sandwich.Event

/-! Programs that act on their surroundings. A program is a tree: at each node
it asks for an action and goes on with whatever the reply is. So it can be
followed through every behaviour of the surroundings, step by step and
interleaved with others, and its actions can be carried out by other programs. -/

namespace Sandwich

/-- A computation of an `α` that asks for actions and reports events. -/
inductive Program {Action : Type} (Reply : Action → Type) (α : Type) : Type
  | done (a : α)
  | act (action : Action) (next : Reply action → Program Reply α)
  | report (event : Event) (next : Program Reply α)

namespace Program

variable {Action Action' : Type} {Reply : Action → Type} {Reply' : Action' → Type}
variable {α β σ : Type}

/-- Asks for one action. -/
def ask (action : Action) : Program Reply (Reply action) := act action done

/-- Reports one event. -/
def tell (event : Event) : Program Reply Unit := report event (done ())

def bind : Program Reply α → (α → Program Reply β) → Program Reply β
  | done a, f => f a
  | act action next, f => act action fun reply => (next reply).bind f
  | report event next, f => report event (next.bind f)

instance : Monad (Program Reply) where
  pure := done
  bind := bind

/-- The program in which each action is carried out by another program. -/
def expand (carryOut : (action : Action) → Program Reply' (Reply action)) :
    Program Reply α → Program Reply' α
  | done a => done a
  | act action next => (carryOut action).bind fun reply => (next reply).expand carryOut
  | report event next => report event (next.expand carryOut)

/-- What happened at one point of a run. -/
inductive Moment (Reply : Action → Type)
  | acted (action : Action) (reply : Reply action)
  | reported (event : Event)

/-- The outcome of a run: all that happened, the result, and the surroundings afterwards. -/
structure Outcome (Reply : Action → Type) (σ α : Type) where
  moments : List (Moment Reply)
  result : α
  state : σ

/-- The run in surroundings that reply from a state and change it. -/
def run (surroundings : (action : Action) → σ → Reply action × σ) :
    Program Reply α → σ → Outcome Reply σ α
  | done a, s => ⟨[], a, s⟩
  | act action next, s =>
    let (reply, s) := surroundings action s
    let rest := (next reply).run surroundings s
    { rest with moments := .acted action reply :: rest.moments }
  | report event next, s =>
    let rest := next.run surroundings s
    { rest with moments := .reported event :: rest.moments }

/-- The events of a run, in order. -/
def Outcome.events (o : Outcome Reply σ α) : List Event :=
  o.moments.filterMap fun
    | .reported event => some event
    | .acted _ _ => none

/-- The actions of a run, in order. -/
def Outcome.actions (o : Outcome Reply σ α) : List Action :=
  o.moments.filterMap fun
    | .reported _ => none
    | .acted action _ => some action

end Program

end Sandwich
