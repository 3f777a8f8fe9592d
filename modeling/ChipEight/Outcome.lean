namespace ChipEight

/-- An answer or an error, either of them with the state that the operation leaves. -/
inductive Outcome (ε σ α : Type) where
  | done (value : α) (state : σ)
  | failed (error : ε) (state : σ)

namespace Outcome

variable {ε σ α : Type}

def state : Outcome ε σ α → σ
  | done _ s => s
  | failed _ s => s

end Outcome

end ChipEight
