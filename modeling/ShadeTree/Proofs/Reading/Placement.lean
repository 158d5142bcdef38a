import ShadeTree.Proofs.Reading.Precedence

/-!
Expressions in other places.

The tokens of an expression can stand wherever an operand is expected. On an empty level they are read
as the expression. Behind an operator they are still read, but a loose expression is taken apart: the
operator takes what stands next to it. Parts other than operations stay together.
-/

namespace ShadeTree.Reading

open Expression

variable {tokens first second : List Token} {expression left right part : Expression}
  {operator : Operator} {base own other : Level} {bound : Nat} {below levels others next : List Level}

/-- A level of a text that is read on its own, and the level on which it is read behind what waits on
the base. Operators below the bound may take apart what was read. -/
structure Level.Continues (base : Level) (bound : Nat) (own other : Level) : Prop where
  whole : own.opening = .whole
  opening : other.opening = base.opening
  arguments : other.arguments = base.arguments
  signs : other.signs = own.signs
  operand : other.operand = own.operand
  waiting : (∀ entry ∈ own.waiting, bound ≤ entry.2.precedence) →
    other.waiting = own.waiting ++ base.waiting
  parts : ∀ part : Expression, part.isBinary = false →
    part ∈ contents own.waiting ∨ part ∈ contents base.waiting → part ∈ contents other.waiting

/-- An expression can be put on the level, behind operators below the bound. -/
structure Level.IsFree (base : Level) (bound : Nat) : Prop where
  signs : base.signs = []
  operand : base.operand = none
  waiting : ∀ entry ∈ base.waiting.head?, entry.2.precedence < bound

namespace Level.Continues

/-- An expression starts on a free level as it does alone. -/
theorem start (free : base.IsFree bound) : base.Continues bound (.start .whole) base where
  whole := rfl
  opening := rfl
  arguments := rfl
  signs := free.signs
  operand := free.operand
  waiting _ := rfl
  parts part _ := by simp [Level.start, contents]

/-- An operand has the same effect in both places. -/
theorem fill (continues : base.Continues bound own other) (core : Option Expression) :
    base.Continues bound { own with operand := core } { other with operand := core } :=
  { continues with operand := rfl }

/-- A sign has the same effect in both places. -/
theorem sign (continues : base.Continues bound own other) (sign : Operator) :
    base.Continues bound { own with signs := sign :: own.signs }
      { other with signs := sign :: other.signs } :=
  { continues with signs := congrArg (sign :: ·) continues.signs }

/-- An operator takes the same operands in both places, unless a looser one was there before. -/
theorem shift (continues : base.Continues bound own other) (free : base.IsFree bound)
    (operator : Operator) (operand : Expression) :
    base.Continues bound (own.shift operator operand) (other.shift operator operand) where
  whole := continues.whole
  opening := continues.opening
  arguments := continues.arguments
  signs := rfl
  operand := rfl
  waiting tight := by
    obtain ⟨last, rest⟩ := List.forall_mem_cons.mp tight
    have before : ∀ entry ∈ own.waiting, bound ≤ entry.2.precedence := by
      intro entry member
      obtain kept | reduced := le_of_reduced (.signed own.signs operand) entry member
      · exact rest entry kept
      · exact Nat.le_trans last reduced
    have below : ∀ entry ∈ base.waiting.head?, entry.2.precedence < operator.precedence :=
      fun entry member => Nat.lt_of_lt_of_le (free.waiting entry member) last
    simp only [Level.shift, continues.signs, continues.waiting before, reduce_append _ below,
      List.cons_append]
  parts part simple known := by
    have moved (level : Level) : part ∈ contents (level.shift operator operand).waiting ↔
        part ∈ (Expression.signed level.signs operand).parts ∨ part ∈ contents level.waiting := by
      rw [← reduce_parts operator.precedence simple]
      simp [Level.shift, contents]
    rw [moved, continues.signs]
    obtain own | base := known
    · obtain operand | waited := (moved _).mp own
      · exact .inl operand
      · exact .inr (continues.parts part simple (.inl waited))
    · exact .inr (continues.parts part simple (.inr base))

end Level.Continues

/-- The stacks are equal above their lowest levels. -/
inductive Stacked (base : Level) (bound : Nat) (below : List Level) : List Level → List Level → Prop
  | lowest {own other : Level} (continues : base.Continues bound own other) :
      Stacked base bound below [own] (other :: below)
  | above {level : Level} {levels others : List Level} (rest : Stacked base bound below levels others) :
      Stacked base bound below (level :: levels) (level :: others)

/-- A closed level gives its operand to the same level in both stacks. -/
theorem Stacked.close (stacked : Stacked base bound below (own :: levels) others)
    (result : Expression) :
    ∃ enclosing rest, others = enclosing :: rest ∧
      Stacked base bound below ({ own with operand := some result } :: levels)
        ({ enclosing with operand := some result } :: rest) := by
  cases stacked with
  | lowest continues => exact ⟨_, _, rfl, .lowest (continues.fill (some result))⟩
  | above rest => exact ⟨_, _, rfl, .above rest⟩

/-- A token does the same in both stacks. -/
theorem advance_stacked (free : base.IsFree bound) {token : Token}
    (stacked : Stacked base bound below levels others) (advanced : advance levels token = some next) :
    ∃ result, advance others token = some result ∧ Stacked base bound below next result := by
  cases stacked with
  | @lowest own other continues =>
      cases advance_iff.mp advanced with
      | stay moved =>
          cases move_step moved with
          | fill core simple alike =>
              exact ⟨_, advance_iff.mpr (.stay (alike other continues.operand)),
                .lowest (continues.fill (some core))⟩
          | sign sign alike =>
              exact ⟨_, advance_iff.mpr (.stay (alike other continues.operand)),
                .lowest (continues.sign sign)⟩
          | shift operator operand found alike =>
              exact ⟨_, advance_iff.mpr (.stay (alike other continues.operand)),
                .lowest (continues.shift free operator operand)⟩
          | separate callee operand opening =>
              rw [continues.whole] at opening
              cases opening
      | «open» moved =>
          cases move_step moved with
          | «open» opening alike =>
              exact ⟨_, advance_iff.mpr (.open (alike other continues.operand)),
                .above (.lowest (continues.fill none))⟩
  | @above level levels others rest =>
      cases advance_iff.mp advanced with
      | stay moved => exact ⟨_, advance_iff.mpr (.stay moved), .above rest⟩
      | «open» moved => exact ⟨_, advance_iff.mpr (.open moved), .above (.above rest)⟩
      | @close enclosing result outer moved =>
          obtain ⟨_, _, rfl, closed⟩ := rest.close result
          exact ⟨_, advance_iff.mpr (.close moved), closed⟩

/-- What is read on its own is read on a free level, by induction on the tokens. -/
theorem foldlM_stacked (free : base.IsFree bound) {last : List Level}
    (stacked : Stacked base bound below levels others)
    (ran : tokens.foldlM advance levels = some last) :
    ∃ result, tokens.foldlM advance others = some result ∧ Stacked base bound below last result := by
  induction tokens generalizing levels others with
  | nil =>
      cases ran
      exact ⟨others, rfl, stacked⟩
  | cons token rest ih =>
      rw [List.foldlM_cons] at ran
      obtain ⟨next, advanced, later⟩ := Option.bind_eq_some_iff.mp ran
      obtain ⟨result, same, still⟩ := advance_stacked free stacked advanced
      obtain ⟨final, ends, finished⟩ := ih still later
      exact ⟨final, by rw [List.foldlM_cons, same]; exact ends, finished⟩

/-- The level on which an expression has been read. If it binds tightly enough, it takes its place as
a whole. -/
structure Level.Holds (base : Level) (bound : Nat) (expression : Expression) (level : Level)
    (operand : Expression) : Prop where
  opening : level.opening = base.opening
  arguments : level.arguments = base.arguments
  found : level.operand = some operand
  value : expression.isTight bound → level.value operand = (reduce 0 expression base.waiting).1
  parts : ∀ part : Expression, part.isBinary = false →
    part ∈ expression.parts ∨ part ∈ contents base.waiting → part ∈ (level.value operand).parts

/-- The tokens of an expression put it on a free level, and leave the levels below alone. -/
theorem foldlM_free (free : base.IsFree bound) (below : List Level)
    (parsed : parse? tokens = some expression) :
    ∃ level operand, tokens.foldlM advance (base :: below) = some (level :: below) ∧
      base.Holds bound expression level operand := by
  obtain ⟨own, operand, ran, _, found, ordered, rfl⟩ := parse_cases parsed
  have stacked : Stacked base bound below [.start .whole] (base :: below) := .lowest (.start free)
  obtain ⟨result, same, stacked⟩ := foldlM_stacked free stacked ran
  cases stacked with
  | above rest => cases rest
  | @lowest _ other continues =>
      refine ⟨other, operand, same, continues.opening, continues.arguments,
        continues.operand.trans found, fun tight => ?_, fun part simple known => ?_⟩
      · have whole := continues.waiting (le_of_reduce_tight ordered.waiting tight)
        rw [Level.value, continues.signs, whole, reduce_zero_append]
        rfl
      · rw [Level.value_parts _ _ simple] at known ⊢
        rw [continues.signs]
        obtain (operand | waited) | waited := known
        · exact .inl operand
        · exact .inr (continues.parts part simple (.inl waited))
        · exact .inr (continues.parts part simple (.inr waited))

theorem Level.start_isFree (opening : Opening) : (Level.start opening).IsFree 0 :=
  ⟨rfl, rfl, nofun⟩

/-! ### Parentheses, arguments and operations -/

/-- Whatever is read is one operand in parentheses. -/
theorem Fills.of_parse (parsed : parse? tokens = some expression) :
    Fills (.openGroup :: (tokens ++ [.closeGroup])) [] (.group expression) := by
  intro level outer expected
  have opened : advance (level :: outer) .openGroup = some (.start .group :: level :: outer) := by
    simp [advance, move, expected, expect]
  obtain ⟨inner, operand, ran, holds⟩ :=
    foldlM_free (Level.start_isFree .group) (level :: outer) parsed
  have value : inner.value operand = expression := holds.value (isTight_zero expression)
  rw [List.foldlM_cons, opened]
  refine foldlM_append_of ran ?_
  simp [advance, move, extend, holds.found, holds.opening, Level.start, value]

/-- What is read, with commas between. -/
inductive Separated : List Token → List Expression → Prop
  | last {tokens : List Token} {expression : Expression} (parsed : parse? tokens = some expression) :
      Separated tokens [expression]
  | more {first second : List Token} {expression next : Expression} {others : List Expression}
      (parsed : parse? first = some expression) (rest : Separated second (next :: others)) :
      Separated (first ++ .comma :: second) (expression :: next :: others)

/-- Arguments are read onto those in front of them, by induction on the arguments. -/
theorem Separated.read {callee : String} {expressions : List Expression}
    (separated : Separated tokens expressions) (before : List Expression) (enclosing : Level)
    (outer : List Level) :
    (tokens ++ [Token.closeGroup]).foldlM advance
        (⟨.call callee, before, [], [], none⟩ :: enclosing :: outer) =
      some ({ enclosing with operand := some (.call callee (before.reverse ++ expressions)) } ::
        outer) := by
  have free (before : List Expression) :
      (⟨.call callee, before, [], [], none⟩ : Level).IsFree 0 := ⟨rfl, rfl, nofun⟩
  induction separated generalizing before with
  | last parsed =>
      obtain ⟨level, operand, ran, holds⟩ := foldlM_free (free before) (enclosing :: outer) parsed
      have value : level.value operand = _ := holds.value (isTight_zero _)
      refine foldlM_append_of ran ?_
      simp [advance, move, extend, holds.found, holds.opening, holds.arguments, value, reduce]
  | @more first second expression next others parsed rest ih =>
      obtain ⟨level, operand, ran, holds⟩ := foldlM_free (free before) (enclosing :: outer) parsed
      have value : level.value operand = expression := holds.value (isTight_zero _)
      have separated : advance (level :: enclosing :: outer) .comma =
          some (⟨.call callee, expression :: before, [], [], none⟩ :: enclosing :: outer) := by
        simp [advance, move, extend, holds.found, holds.opening, holds.arguments, value]
      rw [List.append_assoc, List.cons_append]
      refine foldlM_append_of ran ?_
      rw [List.foldlM_cons, separated]
      have later := ih (expression :: before)
      simpa using later

/-- A call fills an operand when its arguments are parsed one by one. -/
theorem Fills.call_of_parse {expressions : List Expression} (callee : String)
    (separated : Separated tokens expressions) :
    Fills (.atom callee :: .openGroup :: (tokens ++ [.closeGroup])) [] (.call callee expressions) := by
  intro level outer expected
  have named : advance (level :: outer) (.atom callee) =
      some ({ level with operand := some (.atom callee) } :: outer) := by
    simp [advance, move, expected, expect]
  have opened : advance ({ level with operand := some (.atom callee) } :: outer) .openGroup =
      some (.start (.call callee) :: { level with operand := none } :: outer) := by
    simp [advance, move, extend]
  rw [List.foldlM_cons, named, Option.bind_eq_bind, Option.bind_some, List.foldlM_cons, opened]
  exact separated.read [] { level with operand := none } outer

/-- Two expressions with an operator between them are always read, and as the operation on them if
and only if the operator takes them. -/
theorem parse_operation (binary : operator.isBinary) (leftParsed : parse? first = some left)
    (rightParsed : parse? second = some right) :
    ∃ whole, parse? (first ++ .operator operator :: second) = some whole ∧
      (whole = .binary operator left right ↔ operator.Takes left right) ∧
      ∀ part : Expression, part.isBinary = false →
        part ∈ left.parts ∨ part ∈ right.parts → part ∈ whole.parts := by
  obtain ⟨level, operand, ran, opening, found, ordered, value⟩ := parse_cases leftParsed
  have shifted : advance [level] (.operator operator) = some [level.shift operator operand] := by
    simp [advance, move, found, extend, binary, Level.shift]
  have free : (level.shift operator operand).IsFree (operator.precedence + 1) := by
    refine ⟨rfl, rfl, fun entry member => ?_⟩
    cases member
    exact Nat.lt_succ_self _
  obtain ⟨last, core, later, holds⟩ := foldlM_free free [] rightParsed
  have parsed : parse? (first ++ .operator operator :: second) = some (last.value core) := by
    have joined : (first ++ .operator operator :: second).foldlM advance [.start .whole] =
        some [last] := by
      refine foldlM_append_of ran ?_
      rw [List.foldlM_cons, shifted]
      exact later
    obtain ⟨lastOpening, arguments, waiting, signs, lastOperand⟩ := last
    obtain rfl : lastOperand = some core := holds.found
    obtain rfl : lastOpening = .whole := holds.opening.trans opening
    rw [parse?, joined]
    rfl
  refine ⟨_, parsed, ⟨fun same => ?_, fun takes => ?_⟩, fun part simple known => ?_⟩
  · have takes := parse_isOrdered parsed
    rw [same] at takes
    exact takes
  · have tight := takes.left
    rw [value, Level.value] at tight
    have waiting : (level.shift operator operand).waiting = [(left, operator)] := by
      simp only [Level.shift, reduce_of_tight ordered.waiting tight]
      rw [value, Level.value]
    rw [holds.value takes.right, waiting, reduce_zero_cons]
    rfl
  · apply holds.parts part simple
    obtain own | other := known
    · right
      rw [value, Level.value_parts _ _ simple, ← reduce_parts operator.precedence simple]
        at own
      simpa [Level.shift, contents] using own
    · exact .inl other

end ShadeTree.Reading
