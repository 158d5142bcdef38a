import ShadeTree.Proofs.Reading.Expression

/-!
Tokens that make up one operand.

Wherever an operand is expected, such tokens are read as the same operand.
-/

namespace ShadeTree.Reading

variable {tokens : List Token} {signs : List Operator} {core expression : Expression}

/-- A fold over two lists goes on behind the first where that ends. -/
theorem foldlM_append_of {α β : Type} {step : α → β → Option α} {start middle last : α}
    {front back : List β} (before : front.foldlM step start = some middle)
    (after : back.foldlM step middle = some last) : (front ++ back).foldlM step start = some last := by
  rw [List.foldlM_append, before]
  exact after

/-- On every level where an operand is expected, the tokens are read as the operand with the signs in
front of it. -/
def Fills (tokens : List Token) (signs : List Operator) (core : Expression) : Prop :=
  ∀ (level : Level) (outer : List Level), level.operand = none →
    tokens.foldlM advance (level :: outer) =
      some ({ level with signs := signs ++ level.signs, operand := some core } :: outer)

namespace Fills

theorem atom (text : String) : Fills [.atom text] [] (.atom text) := by
  intro level outer expected
  simp [advance, move, expected, expect]

/-- A sign in front of an operand is one of its signs. -/
theorem sign {operator : Operator} (unary : operator.isUnary) (fills : Fills tokens signs core) :
    Fills (.operator operator :: tokens) (signs ++ [operator]) core := by
  intro level outer expected
  have advanced : advance (level :: outer) (.operator operator) =
      some ({ level with signs := operator :: level.signs } :: outer) := by
    simp [advance, move, expected, expect, unary]
  rw [List.foldlM_cons, advanced]
  have rest := fills { level with signs := operator :: level.signs } outer expected
  simpa using rest

/-- A member behind an operand is a member of it. -/
theorem member (fills : Fills tokens [] core) (name : String) :
    Fills (tokens ++ [.member name]) [] (.member core name) := by
  intro level outer expected
  refine foldlM_append_of (fills level outer expected) ?_
  simp [advance, move, extend]

/-- Tokens that fill an operand are parsed as it, behind its signs. -/
theorem parse (fills : Fills tokens signs core) : parse? tokens = some (.signed signs core) := by
  rw [parse?, fills (.start .whole) [] rfl]
  simp [finish, Level.start, Level.value, reduce]

end Fills

/-- The tokens are one operand, its signs included. -/
def Reads (tokens : List Token) (expression : Expression) : Prop :=
  ∃ signs core, expression = .signed signs core ∧ Fills tokens signs core

/-- Tokens that read as an expression are parsed as it. -/
theorem Reads.parse (reads : Reads tokens expression) : parse? tokens = some expression := by
  obtain ⟨signs, core, rfl, fills⟩ := reads
  exact fills.parse

end ShadeTree.Reading
