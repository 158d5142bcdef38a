import ShadeTree.Proofs.Reading.Operand

/-!
How tightly the operands of what is read are bound.

The left side of an operator binds as tightly as the operator or tighter, and its right side tighter.
On every level the operands that wait are ordered by their operators, the tightest one on top, so that
every expression that is read has such sides.
-/

namespace ShadeTree

/-- Only an operation can be loose. -/
def Expression.isTight (bound : Nat) : Expression → Bool
  | .binary operator _ _ => bound ≤ operator.precedence
  | _ => true

/-- The sides are read as the operands of the operator when it stands between them. -/
structure Operator.Takes (operator : Operator) (left right : Expression) : Prop where
  left : left.isTight operator.precedence
  right : right.isTight (operator.precedence + 1)

namespace Expression

def IsOrdered : Expression → Prop
  | .binary operator left right => operator.Takes left right
  | _ => True

/-- A single operand binds tighter than every operator. -/
theorem isTight_of_simple {expression : Expression} (simple : expression.isBinary = false)
    (bound : Nat) : expression.isTight bound := by
  cases expression with
  | binary => cases simple
  | atom | unary | group | member | index | call => rfl

theorem isTight_zero (expression : Expression) : expression.isTight 0 := by
  cases expression with
  | binary operator => exact decide_eq_true (Nat.zero_le operator.precedence)
  | atom | unary | group | member | index | call => rfl

theorem isOrdered_of_simple {expression : Expression} (simple : expression.isBinary = false) :
    expression.IsOrdered := by
  cases expression with
  | binary => cases simple
  | atom | unary | group | member | index | call => trivial

/-- Signs make no operation. -/
theorem signed_isBinary {signs : List Operator} {operand : Expression}
    (simple : operand.isBinary = false) : (signed signs operand).isBinary = false := by
  induction signs generalizing operand with
  | nil => exact simple
  | cons sign signs ih => exact ih rfl

mutual

/-- All expressions that an expression is put together from, itself included. -/
def parts : Expression → List Expression
  | .atom text => [.atom text]
  | .unary operator operand => .unary operator operand :: operand.parts
  | .binary operator left right => .binary operator left right :: (left.parts ++ right.parts)
  | .group inner => .group inner :: inner.parts
  | .member object name => .member object name :: object.parts
  | .index object position => .index object position :: (object.parts ++ position.parts)
  | .call callee arguments => .call callee arguments :: partsAll arguments

def partsAll : List Expression → List Expression
  | [] => []
  | first :: rest => first.parts ++ partsAll rest

end

theorem mem_parts (expression : Expression) : expression ∈ expression.parts := by
  cases expression <;> simp [parts]

/-- The parts of a list are those of its elements. -/
theorem mem_partsAll {arguments : List Expression} {part : Expression} :
    part ∈ partsAll arguments ↔ ∃ argument ∈ arguments, part ∈ argument.parts := by
  induction arguments with
  | nil => simp [partsAll]
  | cons first rest ih => simp [partsAll, ih]

end Expression

namespace Reading

open Expression

variable {waiting : List (Expression × Operator)} {operand part : Expression} {operator : Operator}
  {bound : Nat}

/-! ### Waiting operands -/

/-- Waiting operands fit on the left of their operators, and the operators above bind tighter. -/
structure Ordered (waiting : List (Expression × Operator)) : Prop where
  lefts : ∀ entry ∈ waiting, entry.1.isTight entry.2.precedence
  strict : waiting.Pairwise fun upper lower => lower.2.precedence < upper.2.precedence

theorem Ordered.nil : Ordered [] :=
  ⟨nofun, .nil⟩

theorem Ordered.tail {entry : Expression × Operator} (ordered : Ordered (entry :: waiting)) :
    Ordered waiting :=
  ⟨fun other member => ordered.lefts other (.tail _ member), ordered.strict.of_cons⟩

/-- The operators below the topmost bind looser. -/
theorem Ordered.below {entry : Expression × Operator} (ordered : Ordered (entry :: waiting)) :
    ∀ lower ∈ waiting, lower.2.precedence < entry.2.precedence :=
  fun _ member => List.rel_of_pairwise_cons ordered.strict member

theorem reduce_zero_cons (entry : Expression × Operator) :
    reduce 0 operand (entry :: waiting) = reduce 0 (.binary entry.2 entry.1 operand) waiting := by
  rw [reduce, if_pos (Nat.zero_le _)]

/-- What is reduced fits as well, and looser operators go on waiting. -/
theorem reduce_ordered (ordered : Ordered waiting) (operandOrdered : operand.IsOrdered)
    (fits : ∀ entry ∈ waiting, operand.isTight (entry.2.precedence + 1))
    (tight : operand.isTight bound) :
    (reduce bound operand waiting).1.IsOrdered ∧ (reduce bound operand waiting).1.isTight bound ∧
      Ordered (reduce bound operand waiting).2 ∧
      ∀ entry ∈ (reduce bound operand waiting).2, entry.2.precedence < bound := by
  induction waiting generalizing operand with
  | nil => exact ⟨operandOrdered, tight, .nil, nofun⟩
  | cons entry outer ih =>
      rw [reduce]
      split
      · rename_i binds
        have takes : entry.2.Takes entry.1 operand :=
          ⟨ordered.lefts entry (.head _), fits entry (.head _)⟩
        refine ih ordered.tail takes (fun lower member => ?_) (decide_eq_true binds)
        exact decide_eq_true (ordered.below lower member)
      · rename_i loose
        refine ⟨operandOrdered, tight, ordered, fun lower member => ?_⟩
        rcases List.mem_cons.mp member with rfl | later
        · exact Nat.lt_of_not_le loose
        · exact Nat.lt_trans (ordered.below lower later) (Nat.lt_of_not_le loose)

/-- The outermost operation that is reduced has the loosest operator. -/
theorem le_of_reduce_binary {left right : Expression} (ordered : Ordered waiting)
    (below : ∀ entry ∈ waiting, entry.2.precedence < operator.precedence)
    (tight : (reduce 0 (.binary operator left right) waiting).1.isTight bound) :
    bound ≤ operator.precedence := by
  induction waiting generalizing operator left right with
  | nil => exact of_decide_eq_true tight
  | cons entry outer ih =>
      rw [reduce_zero_cons] at tight
      have above := ih ordered.tail ordered.below tight
      exact Nat.le_trans above (Nat.le_of_lt (below entry (.head _)))

/-- If everything together is tight, it is reduced at once. -/
theorem reduce_of_tight (ordered : Ordered waiting)
    (tight : (reduce 0 operand waiting).1.isTight bound) :
    reduce bound operand waiting = ((reduce 0 operand waiting).1, []) := by
  induction waiting generalizing operand with
  | nil => rfl
  | cons entry outer ih =>
      rw [reduce_zero_cons] at tight ⊢
      have binds := le_of_reduce_binary ordered.tail ordered.below tight
      rw [reduce, if_pos binds]
      exact ih ordered.tail tight

/-- If everything together is tight, so is every operator. -/
theorem le_of_reduce_tight (ordered : Ordered waiting)
    (tight : (reduce 0 operand waiting).1.isTight bound) :
    ∀ entry ∈ waiting, bound ≤ entry.2.precedence := by
  induction waiting generalizing operand with
  | nil => exact nofun
  | cons entry outer ih =>
      rw [reduce_zero_cons] at tight
      intro other member
      rcases List.mem_cons.mp member with rfl | later
      · exact le_of_reduce_binary ordered.tail ordered.below tight
      · exact ih ordered.tail tight other later

/-- What does not go on waiting binds tightly enough to be reduced. -/
theorem le_of_reduced (operand : Expression) :
    ∀ entry ∈ waiting, entry ∈ (reduce bound operand waiting).2 ∨ bound ≤ entry.2.precedence := by
  induction waiting generalizing operand with
  | nil => exact nofun
  | cons first outer ih =>
      intro entry member
      rw [reduce]
      split
      · rename_i binds
        rcases List.mem_cons.mp member with rfl | later
        · exact .inr binds
        · exact ih _ entry later
      · exact .inl member

/-- Operators that bind looser than the bound stay where they are. -/
theorem reduce_append (base : List (Expression × Operator))
    (below : ∀ entry ∈ base.head?, entry.2.precedence < bound) :
    reduce bound operand (waiting ++ base) =
      ((reduce bound operand waiting).1, (reduce bound operand waiting).2 ++ base) := by
  induction waiting generalizing operand with
  | nil =>
      cases base with
      | nil => rfl
      | cons entry rest =>
          have loose := Nat.not_le_of_lt (below entry rfl)
          simp [reduce, loose]
  | cons entry outer ih =>
      rw [List.cons_append, reduce, reduce]
      split
      · exact ih
      · rfl

/-- A whole stack is reduced from its top. -/
theorem reduce_zero_append (base : List (Expression × Operator)) :
    reduce 0 operand (waiting ++ base) = reduce 0 (reduce 0 operand waiting).1 base := by
  induction waiting generalizing operand with
  | nil => rfl
  | cons entry outer ih =>
      rw [List.cons_append, reduce_zero_cons, reduce_zero_cons]
      exact ih

/-- What waiting operands are put together from. -/
def contents (waiting : List (Expression × Operator)) : List Expression :=
  waiting.flatMap fun entry => entry.1.parts

/-- Reducing only puts operations around the parts that there are. -/
theorem reduce_parts (bound : Nat) (simple : part.isBinary = false) :
    part ∈ (reduce bound operand waiting).1.parts ∨
        part ∈ contents (reduce bound operand waiting).2 ↔
      part ∈ operand.parts ∨ part ∈ contents waiting := by
  induction waiting generalizing operand with
  | nil => simp [reduce]
  | cons entry outer ih =>
      rw [reduce]
      split
      · have apart : part ≠ .binary entry.2 entry.1 operand := by
          rintro rfl
          cases simple
        refine (@ih (.binary entry.2 entry.1 operand)).trans ?_
        simp only [parts, contents, List.mem_cons, List.mem_append, apart, false_or,
          List.flatMap_cons]
        rw [or_left_comm, or_assoc]
      · rfl

/-- Nothing is left waiting at the end. -/
theorem reduce_zero_rest : (reduce 0 operand waiting).2 = [] := by
  induction waiting generalizing operand with
  | nil => rfl
  | cons entry outer ih =>
      rw [reduce_zero_cons]
      exact ih

/-- The parts of a finished level are those of its last operand and of what waits. -/
theorem Level.value_parts (level : Level) (operand : Expression) (simple : part.isBinary = false) :
    part ∈ (level.value operand).parts ↔
      part ∈ (Expression.signed level.signs operand).parts ∨ part ∈ contents level.waiting := by
  rw [← reduce_parts 0 simple, reduce_zero_rest]
  simp [contents, Level.value]

/-! ### Steps -/

namespace Level

/-- An operator comes behind the operand. -/
def shift (level : Level) (operator : Operator) (operand : Expression) : Level :=
  let (left, outer) := reduce operator.precedence (.signed level.signs operand) level.waiting
  { level with waiting := (left, operator) :: outer, signs := [], operand := none }

structure IsOrdered (level : Level) : Prop where
  waiting : Ordered level.waiting
  operand : ∀ operand ∈ level.operand, operand.isBinary = false

end Level

/-- What a token does on a level. Unless it ends an argument or the level, it does the same on every
level with the same operand. -/
inductive Step (level : Level) (token : Token) : Move → Prop
  | fill (core : Expression) (simple : core.isBinary = false)
      (alike : ∀ other : Level, other.operand = level.operand →
        move other token = some (.stay { other with operand := some core })) :
      Step level token (.stay { level with operand := some core })
  | sign (sign : Operator)
      (alike : ∀ other : Level, other.operand = level.operand →
        move other token = some (.stay { other with signs := sign :: other.signs })) :
      Step level token (.stay { level with signs := sign :: level.signs })
  | shift (operator : Operator) (operand : Expression) (found : level.operand = some operand)
      (alike : ∀ other : Level, other.operand = level.operand →
        move other token = some (.stay (other.shift operator operand))) :
      Step level token (.stay (level.shift operator operand))
  | «open» (opening : Opening)
      (alike : ∀ other : Level, other.operand = level.operand →
        move other token = some (.open { other with operand := none } (.start opening))) :
      Step level token (.open { level with operand := none } (.start opening))
  | separate (callee : String) (operand : Expression) (opening : level.opening = .call callee) :
      Step level token (.stay ⟨.call callee, level.value operand :: level.arguments, [], [], none⟩)
  | close (result : Expression) (inner : level.opening ≠ .whole) (simple : result.isBinary = false) :
      Step level token (.close result)

/-- What a token does where an operand is expected. -/
theorem expect_step {level : Level} {token : Token} {result : Move} (none : level.operand = none)
    (moved : expect level token = some result) : Step level token result := by
  have alike {act : Level → Move} (same : ∀ other : Level, expect other token = some (act other)) :
      ∀ other : Level, other.operand = level.operand → move other token = some (act other) := by
    intro other equal
    rw [move, equal, none]
    exact same other
  cases token with
  | atom text =>
      cases moved
      exact .fill (.atom text) rfl (alike fun _ => rfl)
  | operator operator =>
      by_cases unary : operator.isUnary
      · simp only [expect, unary, if_true, Option.some.injEq] at moved
        subst moved
        exact .sign operator (alike fun other => by simp [expect, unary])
      · simp [expect, unary] at moved
  | openGroup =>
      cases moved
      have opens : Step level .openGroup (.open { level with operand := .none } (.start .group)) := by
        refine .open .group fun other equal => ?_
        obtain ⟨opening, arguments, waiting, signs, operand⟩ := other
        cases equal.trans none
        rfl
      rw [← none] at opens
      exact opens
  | closeGroup =>
      dsimp only [expect] at moved
      split at moved
      · rename_i opening _ _
        cases moved
        exact .close _ (by simp [opening]) rfl
      · cases moved
  | member | openIndex | closeIndex | comma => cases moved

/-- What a token does behind an operand. -/
theorem extend_step {level : Level} {operand : Expression} {token : Token} {result : Move}
    (found : level.operand = some operand) (moved : Reading.extend level operand token = some result) :
    Step level token result := by
  have alike {act : Level → Move}
      (same : ∀ other : Level, Reading.extend other operand token = some (act other)) :
      ∀ other : Level, other.operand = level.operand → move other token = some (act other) := by
    intro other equal
    rw [move, equal, found]
    exact same other
  cases token with
  | member name =>
      cases moved
      exact .fill (.member operand name) rfl (alike fun _ => rfl)
  | operator operator =>
      by_cases binary : operator.isBinary
      · simp only [Reading.extend, binary, if_true, Option.some.injEq] at moved
        subst moved
        exact .shift operator operand found
          (alike fun other => by simp [Reading.extend, binary, Level.shift])
      · simp [Reading.extend, binary] at moved
  | openGroup =>
      cases operand with
      | atom callee =>
          cases moved
          exact .open (.call callee) (alike fun _ => rfl)
      | unary | binary | group | member | index | call => cases moved
  | openIndex =>
      cases moved
      exact .open (.index operand) (alike fun _ => rfl)
  | comma =>
      dsimp only [Reading.extend] at moved
      split at moved
      · rename_i callee opening
        cases moved
        exact .separate callee operand opening
      · cases moved
  | closeGroup =>
      dsimp only [Reading.extend] at moved
      split at moved
      · rename_i opening
        cases moved
        exact .close _ (by simp [opening]) rfl
      · rename_i callee opening
        cases moved
        exact .close _ (by simp [opening]) rfl
      · cases moved
  | closeIndex =>
      dsimp only [Reading.extend] at moved
      split at moved
      · rename_i object opening
        cases moved
        exact .close _ (by simp [opening]) rfl
      · cases moved
  | atom => cases moved

/-- What a token does, in either place. -/
theorem move_step {level : Level} {token : Token} {result : Move}
    (moved : move level token = some result) : Step level token result := by
  unfold move at moved
  split at moved
  · rename_i none
    exact expect_step none moved
  · rename_i operand found
    exact extend_step found moved

/-! ### Runs -/

theorem Level.start_isOrdered (opening : Opening) : (Level.start opening).IsOrdered :=
  ⟨.nil, nofun⟩

/-- An operator behind an operand keeps a level in order. -/
theorem Level.IsOrdered.shift {level : Level} (ordered : level.IsOrdered) {operand : Expression}
    (found : level.operand = some operand) (operator : Operator) :
    (level.shift operator operand).IsOrdered := by
  have simple : (Expression.signed level.signs operand).isBinary = false :=
    signed_isBinary (ordered.operand operand found)
  obtain ⟨_, tight, rest, looser⟩ := reduce_ordered ordered.waiting (isOrdered_of_simple simple)
    (fun _ _ => isTight_of_simple simple _) (isTight_of_simple simple operator.precedence)
  refine ⟨⟨fun entry member => ?_, .cons looser rest.strict⟩, nofun⟩
  rcases List.mem_cons.mp member with rfl | later
  · exact tight
  · exact rest.lefts entry later

/-- What becomes of the level itself, unless it is closed. -/
def Move.level? : Move → Option Level
  | .stay level | .open level _ => some level
  | .close _ => none

/-- A step keeps a level in order. -/
theorem Step.ordered {level changed : Level} {token : Token} {result : Move}
    (step : Step level token result) (ordered : level.IsOrdered)
    (changes : result.level? = some changed) : changed.IsOrdered := by
  cases step with
  | fill core simple alike =>
      cases changes
      exact ⟨ordered.waiting, fun operand same => Option.some.inj same ▸ simple⟩
  | sign sign alike =>
      cases changes
      exact ⟨ordered.waiting, ordered.operand⟩
  | shift operator operand found alike =>
      cases changes
      exact ordered.shift found operator
  | «open» opening alike =>
      cases changes
      exact ⟨ordered.waiting, nofun⟩
  | separate callee operand opening =>
      cases changes
      exact ⟨.nil, nofun⟩
  | close result inner simple => cases changes

/-- What a token does to a level with those around it. -/
inductive Advances (level : Level) (token : Token) : List Level → List Level → Prop
  | stay {changed : Level} {outer : List Level} (moved : move level token = some (.stay changed)) :
      Advances level token outer (changed :: outer)
  | «open» {changed inner : Level} {outer : List Level}
      (moved : move level token = some (.open changed inner)) :
      Advances level token outer (inner :: changed :: outer)
  | close {enclosing : Level} {result : Expression} {outer : List Level}
      (moved : move level token = some (.close result)) :
      Advances level token (enclosing :: outer) ({ enclosing with operand := some result } :: outer)

/-- A token advances the topmost level by what it does there. -/
theorem advance_iff {level : Level} {token : Token} {outer next : List Level} :
    advance (level :: outer) token = some next ↔ Advances level token outer next := by
  constructor
  · intro advanced
    cases moved : move level token with
    | none => simp [advance, moved] at advanced
    | some result =>
        cases result with
        | stay changed =>
            simp only [advance, moved, Option.some.injEq] at advanced
            exact advanced ▸ .stay moved
        | «open» changed inner =>
            simp only [advance, moved, Option.some.injEq] at advanced
            exact advanced ▸ .open moved
        | close result =>
            cases outer with
            | nil => simp [advance, moved] at advanced
            | cons enclosing rest =>
                simp only [advance, moved, Option.some.injEq] at advanced
                exact advanced ▸ .close moved
  · intro advances
    cases advances with
    | stay moved | «open» moved | close moved => simp [advance, moved]

/-- A token keeps every level in order. -/
theorem advance_ordered {levels next : List Level} {token : Token}
    (ordered : ∀ level ∈ levels, level.IsOrdered) (advanced : advance levels token = some next) :
    ∀ level ∈ next, level.IsOrdered := by
  cases levels with
  | nil => cases advanced
  | cons level outer =>
      obtain ⟨first, rest⟩ := List.forall_mem_cons.mp ordered
      cases advance_iff.mp advanced with
      | stay moved =>
          exact List.forall_mem_cons.mpr ⟨(move_step moved).ordered first rfl, rest⟩
      | «open» moved =>
          have kept := (move_step moved).ordered first rfl
          cases move_step moved
          exact List.forall_mem_cons.mpr
            ⟨Level.start_isOrdered _, List.forall_mem_cons.mpr ⟨kept, rest⟩⟩
      | close moved =>
          obtain ⟨second, others⟩ := List.forall_mem_cons.mp rest
          cases move_step moved with
          | close result inner simple =>
              refine List.forall_mem_cons.mpr ⟨⟨second.waiting, ?_⟩, others⟩
              exact fun operand same => Option.some.inj same ▸ simple

/-- Tokens keep every level in order, one after another. -/
theorem foldlM_ordered {tokens : List Token} {levels last : List Level}
    (ordered : ∀ level ∈ levels, level.IsOrdered)
    (ran : tokens.foldlM advance levels = some last) : ∀ level ∈ last, level.IsOrdered := by
  induction tokens generalizing levels with
  | nil =>
      cases ran
      exact ordered
  | cons token rest ih =>
      rw [List.foldlM_cons] at ran
      obtain ⟨next, advanced, later⟩ := Option.bind_eq_some_iff.mp ran
      exact ih (advance_ordered ordered advanced) later

/-- A parse ends on one level, whose operands are ordered. -/
theorem parse_cases {tokens : List Token} {expression : Expression}
    (parsed : parse? tokens = some expression) :
    ∃ level operand, tokens.foldlM advance [.start .whole] = some [level] ∧ level.opening = .whole ∧
      level.operand = some operand ∧ level.IsOrdered ∧ expression = level.value operand := by
  obtain ⟨last, ran, finished⟩ := Option.bind_eq_some_iff.mp parsed
  have ordered := foldlM_ordered
    (List.forall_mem_singleton.mpr (Level.start_isOrdered .whole)) ran
  unfold finish at finished
  split at finished
  · cases finished
    exact ⟨_, _, ran, rfl, rfl, ordered _ (.head _), rfl⟩
  · cases finished

/-- A level in order is finished as an expression in order. -/
theorem Level.value_isOrdered {level : Level} (ordered : level.IsOrdered) {operand : Expression}
    (found : level.operand = some operand) : (level.value operand).IsOrdered := by
  have simple : (Expression.signed level.signs operand).isBinary = false :=
    signed_isBinary (ordered.operand operand found)
  exact (reduce_ordered ordered.waiting (isOrdered_of_simple simple)
    (fun _ _ => isTight_of_simple simple _) (isTight_of_simple simple 0)).1

/-- The sides of an operation that is read are as tight as its operator wants them. -/
theorem parse_isOrdered {tokens : List Token} {expression : Expression}
    (parsed : parse? tokens = some expression) : expression.IsOrdered := by
  obtain ⟨level, operand, _, _, found, ordered, rfl⟩ := parse_cases parsed
  exact Level.value_isOrdered ordered found

end Reading

end ShadeTree
