import Backtrack.Proofs.LoopSteps

/-! The readers of the three levels as one family. Each is a loop over the reader of the
level above it, and a loop ends where the text stops its level. -/

namespace Backtrack.Arithmetic

namespace Level

/-- The signs that a loop of this level goes on with. -/
def operator? : Level → Char → Option Operator
  | sum => Loop.additive?
  | product => Loop.multiplicative?
  | factor => fun _ => none

theorem mem_continuing {level : Level} {sign : Char} {operator : Operator}
    (signed : level.operator? sign = some operator) : sign ∈ level.continuing := by
  cases level with
  | sum => exact List.mem_append_left _ (Loop.mem_of_additive? signed)
  | product => exact List.mem_append_left _ (Loop.mem_of_multiplicative? signed)
  | factor => cases signed

theorem not_mem_continuing_above {level : Level} {sign : Char} {operator : Operator}
    (signed : level.operator? sign = some operator) : sign ∉ level.above.continuing := by
  cases level with
  | sum =>
    rcases Loop.mem_additiveSigns.mp (Loop.mem_of_additive? signed) with rfl | rfl
    all_goals decide
  | product =>
    rcases Loop.mem_multiplicativeSigns.mp (Loop.mem_of_multiplicative? signed) with rfl | rfl
    all_goals decide
  | factor => cases signed

/-- A sign of one level is not read by the levels above it. -/
theorem stops_of_operator? {level : Level} {sign : Char} {operator : Operator}
    (signed : level.operator? sign = some operator) (rest : Text) : level.above.Stops (sign :: rest) :=
  .cons (not_mem_continuing_above signed) rest

theorem Stops.above {level : Level} {rest : Text} (stops : level.Stops rest) : level.above.Stops rest := by
  intro c first member
  have subset : level.above.continuing ⊆ level.continuing := by cases level <;> decide
  exact stops c first (subset member)

end Level

namespace Loop

variable {N : Type} [Arithmetic N] {level : Level} {nesting : Nat}

/-- What the loops of a level read, with so much nesting inside. -/
def reader (nesting : Nat) : Level → Reader N
  | .sum => sumOf (factorWithin nesting)
  | .product => productOf (factorWithin nesting)
  | .factor => factorWithin nesting

theorem reader_shortens : (reader nesting level : Reader N).Shortens := by
  cases level with
  | sum => exact (sumOf_sound nesting).shortens
  | product => exact (productOf_sound nesting).shortens
  | factor => exact (factorWithin_sound nesting).shortens

theorem loop_of_stops {operand : Reader N} {rest : Text} (stops : level.Stops rest) (rounds : Nat) (value : N) :
    loop level.operator? operand rounds value rest = (value, rest) := by
  cases rest with
  | nil => exact loop_nil rounds value
  | cons sign rest =>
    cases signed : level.operator? sign with
    | none => exact loop_stop (Or.inl signed) rounds value
    | some operator => exact absurd (Level.mem_continuing signed) (stops sign rfl)

/-- Factors too: no sign goes on with their loop. -/
theorem reader_eq (nesting : Nat) (level : Level) :
    (reader nesting level : Reader N) = Loop.level level.operator? (reader nesting level.above) := by
  cases level with
  | sum => rfl
  | product => rfl
  | factor =>
    funext input
    cases read : (factorWithin nesting : Reader N) input with
    | none => exact read.trans (level_eq_none read).symm
    | some found =>
      obtain ⟨value, rest⟩ := found
      refine read.trans ((level_eq_some read).trans (congrArg some ?_)).symm
      cases rest with
      | nil => exact loop_nil _ value
      | cons sign rest => exact loop_stop (Or.inl rfl) _ value

theorem reader_of_above {input rest : Text} {value : N} (read : reader nesting level.above input = some (value, rest)) :
    reader nesting level input =
      some (loop level.operator? (reader nesting level.above) rest.length value rest) := by
  rw [reader_eq]
  exact level_eq_some read

end Loop
end Backtrack.Arithmetic
