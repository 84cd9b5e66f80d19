/-!
# Outcomes

A call on a state either answers or is refused, and leaves a state behind in both cases. Most
calls check everything first and change the state only on success; `commit` is their form.
-/

namespace ColumnStore

/-- Why a computation is refused, if it is. -/
def refusal? {ε α : Type} : Except ε α → Option ε
  | .ok _ => none
  | .error e => some e

structure Outcome (ε σ α : Type) where
  answer : Except ε α
  state : σ

namespace Outcome

variable {ε ε' σ τ α β : Type}

/-- The new state if there is one, and otherwise the old state with the reason. -/
def commit (old : σ) : Except ε σ → Outcome ε σ Unit
  | .ok new => ⟨.ok (), new⟩
  | .error e => ⟨.error e, old⟩

def map (f : α → β) (o : Outcome ε σ α) : Outcome ε σ β := ⟨o.answer.map f, o.state⟩

def mapError (f : ε → ε') (o : Outcome ε σ α) : Outcome ε' σ α := ⟨o.answer.mapError f, o.state⟩

/-- The same outcome with another view of the state. -/
def mapState (f : σ → τ) (o : Outcome ε σ α) : Outcome ε τ α := ⟨o.answer, f o.state⟩

end Outcome

end ColumnStore
