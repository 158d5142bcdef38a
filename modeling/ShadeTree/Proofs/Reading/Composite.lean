import Mathlib.Data.List.Forall2
import ShadeTree.Proofs.Meaning.Reference
import ShadeTree.Proofs.Reading.Placement
import ShadeTree.Proofs.Reading.Term

/-!
What terms are read as, whatever is taken over into them.

A text may be loose. Parentheses and commas keep it together, but an operator of a term may take it
apart. Every other term is read as one operand.
-/

namespace ShadeTree

open Number Reading

/-- A number is read as one operand. -/
theorem Expression.ofNumeral_isBinary (numeral : Numeral) : (ofNumeral numeral).isBinary = false := by
  unfold ofNumeral
  split
  · rfl
  · rfl

namespace Reading

variable {alphabet : Alphabet} {text first second : String} {expression left right : Expression}

/-- The texts are read as the expressions. -/
abbrev ReadsAll (alphabet : Alphabet) : List String → List Expression → Prop :=
  List.Forall₂ fun text expression => alphabet.read? text = some expression

/-- Texts that are read one by one scan as arguments between commas. -/
theorem ReadsAll.scans {texts : List String} {expressions : List Expression}
    (all : ReadsAll alphabet texts expressions) (some : texts ≠ []) :
    ∃ tokens, Scans alphabet (", ".intercalate texts).toList tokens ∧
      Separated tokens expressions := by
  induction all with
  | nil => exact absurd rfl some
  | cons read rest ih =>
      obtain ⟨tokens, scanned, parsed⟩ := Option.bind_eq_some_iff.mp read
      cases rest with
      | nil =>
          rw [String.intercalate_singleton]
          exact ⟨tokens, scanned, .last parsed⟩
      | cons next others =>
          obtain ⟨later, laterScanned, separated⟩ := ih (List.cons_ne_nil _ _)
          refine ⟨_, ?_, .more parsed separated⟩
          have comma : Scans alphabet (',' :: ' ' :: _) _ := .delimiter rfl rfl (.space laterScanned)
          have joined := Scans.append scanned rfl comma
          rw [String.intercalate_cons_cons]
          simpa using joined

/-- A call is one operand, whatever its arguments are. -/
theorem Spells.call_of_reads {callee : String} {texts : List String} {expressions : List Expression}
    (word : IsWord callee) (all : ReadsAll alphabet texts expressions) (some : texts ≠ []) :
    Spells alphabet (callee ++ Term.arguments texts) (.call callee expressions) := by
  obtain ⟨tokens, scanned, separated⟩ := all.scans some
  refine ⟨_, ?_, [], _, rfl, .call_of_parse callee separated⟩
  have ended : Scans alphabet [')'] [.closeGroup] := .delimiter rfl rfl .nil
  have closed := scanned.append rfl ended
  have opened : Scans alphabet ('(' :: _) _ := .delimiter rfl rfl closed
  have called := word.scans.append rfl opened
  simpa [Term.arguments] using called

/-- Parentheses make one operand of whatever is read between them. -/
theorem Encloses.of_read (read : alphabet.read? text = some expression) :
    Encloses alphabet ("(" ++ text ++ ")") (.group expression) := by
  obtain ⟨tokens, scanned, parsed⟩ := Option.bind_eq_some_iff.mp read
  exact ⟨text, tokens, rfl, scanned, .of_parse parsed⟩

/-- Two texts with an operator between them are read as the operation on what they are read as if and
only if the operator takes these, and their parts stay together. -/
theorem read_operation {sign : Char} {separator : String} {operator : Operator}
    (spaced : separator.toList = [' ', sign, ' ']) (binary : operator.isBinary)
    (arithmetic : sign = '+' ∨ sign = '-' ∨ sign = '*')
    (found : Operator.ofCharacter? sign = some operator)
    (leftRead : alphabet.read? first = some left) (rightRead : alphabet.read? second = some right) :
    ∃ whole, alphabet.read? (first ++ separator ++ second) = some whole ∧
      (whole = .binary operator left right ↔ operator.Takes left right) ∧
      ∀ part : Expression, part.isBinary = false →
        part ∈ left.parts ∨ part ∈ right.parts → part ∈ whole.parts := by
  obtain ⟨leftTokens, leftScanned, leftParsed⟩ := Option.bind_eq_some_iff.mp leftRead
  obtain ⟨rightTokens, rightScanned, rightParsed⟩ := Option.bind_eq_some_iff.mp rightRead
  obtain ⟨whole, parsed, same, parts⟩ := parse_operation binary leftParsed rightParsed
  refine ⟨whole, ?_, same, parts⟩
  have rightScanned : Scans alphabet second.toList rightTokens := rightScanned
  have separated : Scans alphabet (sign :: ' ' :: second.toList) _ :=
    rightScanned.space.operator arithmetic found
  have joined := Scans.append leftScanned rfl separated.space
  have text : (first ++ separator ++ second).toList =
      first.toList ++ ' ' :: sign :: ' ' :: second.toList := by simp [spaced]
  have cut : tokens? alphabet (first ++ separator ++ second) =
      some (leftTokens ++ .operator operator :: rightTokens) := by
    rw [tokens?, text]
    exact joined
  rw [Alphabet.read?, cut]
  exact parsed

end Reading

namespace BinaryOperation

/-- The text between the operands. -/
def separator : BinaryOperation → String
  | .add => " + "
  | .multiply => " * "

theorem text_term (operation : BinaryOperation) (left right : Term) :
    (operation.term left right).text =
      "(" ++ (left.text ++ operation.separator ++ right.text) ++ ")" := by
  cases operation with
  | add =>
      change "(" ++ left.text ++ " + " ++ right.text ++ ")" = _
      simp only [separator, String.append_assoc]
  | multiply =>
      change "(" ++ left.text ++ " * " ++ right.text ++ ")" = _
      simp only [separator, String.append_assoc]

/-- Two texts with an operator between them are read as a whole, which is the operation on both
readings exactly when the operator takes them. -/
theorem read_operands {alphabet : Alphabet} (operation : BinaryOperation) {first second : String}
    {left right : Expression} (leftRead : alphabet.read? first = some left)
    (rightRead : alphabet.read? second = some right) :
    ∃ whole, alphabet.read? (first ++ operation.separator ++ second) = some whole ∧
      (whole = .binary operation.operator left right ↔ operation.operator.Takes left right) ∧
      ∀ part : Expression, part.isBinary = false →
        part ∈ left.parts ∨ part ∈ right.parts → part ∈ whole.parts := by
  cases operation with
  | add => exact read_operation rfl rfl (.inl rfl) rfl leftRead rightRead
  | multiply => exact read_operation rfl rfl (.inr (.inr rfl)) rfl leftRead rightRead

end BinaryOperation

namespace Term

/-- All terms that a term is built from, itself included. -/
def parts : Term → List Term
  | verbatim text => [verbatim text]
  | number value => [number value]
  | name identifier => [name identifier]
  | field object member => [field object member]
  | group inner => group inner :: inner.parts
  | lanes value count => lanes value count :: value.parts
  | vector type copies value pads => vector type copies value pads :: value.parts
  | sum left right => sum left right :: (left.parts ++ right.parts)
  | product left right => product left right :: (left.parts ++ right.parts)
  | mix left right factor =>
    mix left right factor :: (left.parts ++ (right.parts ++ factor.parts))
  | normalize value => normalize value :: value.parts
  | sample texture sampler coordinate level =>
    sample texture sampler coordinate level :: (coordinate.parts ++ level.parts)

/-- A term is a part of itself. -/
theorem mem_parts (term : Term) : term ∈ term.parts := by
  cases term <;> exact List.mem_cons_self ..

theorem parts_operation (operation : BinaryOperation) (left right : Term) :
    (operation.term left right).parts =
      operation.term left right :: (left.parts ++ right.parts) := by
  cases operation with
  | add | multiply => rfl

/-- The expression that a term is read as, with texts of all kinds in it. -/
inductive Parses (alphabet : Alphabet) : Term → Expression → Prop
  | verbatim {text : String} {expression : Expression}
      (read : alphabet.read? text = some expression) : Parses alphabet (.verbatim text) expression
  | number {value : Single} :
      Parses alphabet (.number value) (.ofNumeral (value.numeral .literal))
  | name {identifier : String} (word : IsWord identifier) :
      Parses alphabet (.name identifier) (.atom identifier)
  | field {object member : String} (objectWord : IsWord object) (memberWord : IsWord member) :
      Parses alphabet (.field object member) (.atom (object ++ "." ++ member))
  | group {inner : Term} {expression : Expression} (parses : Parses alphabet inner expression) :
      Parses alphabet (.group inner) (.group expression)
  | lanes {value : Term} {expression : Expression} {count : Nat} (enclosed : value.isEnclosed)
      (some : 0 < count) (parses : Parses alphabet value expression) :
      Parses alphabet (.lanes value count) (.member expression (laneNames count))
  | vector {type : ValueType} {copies : Nat} {value : Term} {pads : List Pad}
      {expression : Expression} (some : 0 < copies) (parses : Parses alphabet value expression) :
      Parses alphabet (.vector type copies value pads)
        (.call type.wgsl (List.replicate copies expression ++ pads.map Pad.expression))
  | sum {left right : Term} {first second inner : Expression}
      (leftParses : Parses alphabet left first) (rightParses : Parses alphabet right second)
      (read : alphabet.read? (left.text ++ " + " ++ right.text) = some inner) :
      Parses alphabet (.sum left right) (.group inner)
  | product {left right : Term} {first second inner : Expression}
      (leftParses : Parses alphabet left first) (rightParses : Parses alphabet right second)
      (read : alphabet.read? (left.text ++ " * " ++ right.text) = some inner) :
      Parses alphabet (.product left right) (.group inner)
  | mix {left right factor : Term} {first second third : Expression}
      (leftParses : Parses alphabet left first) (rightParses : Parses alphabet right second)
      (factorParses : Parses alphabet factor third) :
      Parses alphabet (.mix left right factor) (.call "mix" [first, second, third])
  | normalize {value : Term} {expression : Expression} (parses : Parses alphabet value expression) :
      Parses alphabet (.normalize value) (.call "normalize" [expression])
  | sample {texture sampler : String} {coordinate level : Term} {first second : Expression}
      (textureWord : IsWord texture) (samplerWord : IsWord sampler)
      (coordinateParses : Parses alphabet coordinate first)
      (levelParses : Parses alphabet level second) :
      Parses alphabet (.sample texture sampler coordinate level)
        (.call "textureSampleLevel" [.atom texture, .atom sampler, first, second])

/-- The term is read as a part of the expression unless it is loose. -/
def LiesIn (alphabet : Alphabet) (term : Term) (whole : Expression) : Prop :=
  ∃ reading, term.Parses alphabet reading ∧ (reading.isBinary = false → reading ∈ whole.parts)

namespace LiesIn

variable {alphabet : Alphabet} {term : Term} {expression whole : Expression}

/-- A term lies in what it is itself read as. -/
theorem itself (parses : term.Parses alphabet expression) : term.LiesIn alphabet expression :=
  ⟨expression, parses, fun _ => expression.mem_parts⟩

/-- What a term lies in may be put into something greater. -/
theorem within (lies : term.LiesIn alphabet expression)
    (kept : ∀ part : Expression, part.isBinary = false →
      part ∈ expression.parts → part ∈ whole.parts) : term.LiesIn alphabet whole := by
  obtain ⟨reading, parses, part⟩ := lies
  exact ⟨reading, parses, fun simple => kept reading simple (part simple)⟩

/-- What lies in an argument lies in the call. -/
theorem argument {callee : String} {arguments : List Expression}
    (lies : term.LiesIn alphabet expression) (member : expression ∈ arguments) :
    term.LiesIn alphabet (.call callee arguments) :=
  lies.within fun _ _ known => .tail _ (Expression.mem_partsAll.mpr ⟨expression, member, known⟩)

end LiesIn

/-- The text of the term is read as the expression, which is loose only if the text was taken over. -/
structure Spells (alphabet : Alphabet) (term : Term) (expression : Expression) : Prop where
  read : alphabet.read? term.text = some expression
  encloses : term.isEnclosed → Encloses alphabet term.text expression
  verbatim : expression.isBinary → ∃ text, term = .verbatim text

/-- A text without operators around it spells its operand. -/
theorem Spells.of_operand {alphabet : Alphabet} {term : Term} {expression : Expression}
    (bare : term.isEnclosed = false) (simple : expression.isBinary = false)
    (spells : Reading.Spells alphabet term.text expression) : term.Spells alphabet expression where
  read := spells.read
  encloses enclosed := by
    rw [bare] at enclosed
    cases enclosed
  verbatim binary := by
    rw [simple] at binary
    cases binary

/-- A text in parentheses spells the group. -/
theorem Spells.of_encloses {alphabet : Alphabet} {term : Term} {inner : Expression}
    (encloses : Encloses alphabet term.text (.group inner)) : term.Spells alphabet (.group inner) where
  read := encloses.spells.read
  encloses _ := encloses
  verbatim := nofun

namespace Parses

variable {alphabet : Alphabet} {term left right : Term} {expression first second : Expression}

/-- An operation is read as a group around what its operator makes of the operands. -/
theorem operation (operation : BinaryOperation) (leftParses : left.Parses alphabet first)
    (rightParses : right.Parses alphabet second) {inner : Expression}
    (read : alphabet.read? (left.text ++ operation.separator ++ right.text) = some inner) :
    (operation.term left right).Parses alphabet (.group inner) := by
  cases operation with
  | add => exact .sum leftParses rightParses read
  | multiply => exact .product leftParses rightParses read

/-- Pads are read as their expressions. -/
theorem readsAll_pads (pads : List Pad) :
    ReadsAll alphabet (pads.map Pad.text) (pads.map Pad.expression) := by
  induction pads with
  | nil => exact .nil
  | cons pad rest ih => exact .cons pad.spells.read ih

/-- A repeated text is read as repeated expressions. -/
theorem readsAll_replicate {text : String} (read : alphabet.read? text = some expression)
    {texts : List String} {expressions : List Expression} (copies : Nat)
    (rest : ReadsAll alphabet texts expressions) :
    ReadsAll alphabet (List.replicate copies text ++ texts)
      (List.replicate copies expression ++ expressions) := by
  induction copies with
  | zero => exact rest
  | succ copies ih => exact .cons read ih

/-- The text of a term is read as it stands. Only a text that is taken over can be loose. -/
theorem spells (parses : term.Parses alphabet expression) : term.Spells alphabet expression := by
  induction parses with
  | @verbatim text expression read => exact ⟨read, nofun, fun _ => ⟨text, rfl⟩⟩
  | number =>
      exact .of_operand rfl (Expression.ofNumeral_isBinary _)
        (.numeral (Binary.numeral_wellFormed _ _))
  | name word => exact .of_operand rfl rfl (.word word)
  | field objectWord memberWord => exact .of_operand rfl rfl (.field objectWord memberWord)
  | group parses ih => exact .of_encloses (.of_read ih.read)
  | lanes isEnclosed some parses ih =>
      obtain ⟨rest, names, word⟩ := isWord_laneNames some
      have member := (ih.encloses isEnclosed).member rfl word
      rw [← names] at member
      exact .of_operand rfl rfl member
  | @vector type copies value pads expression some parses ih =>
      have all := readsAll_replicate ih.read copies (readsAll_pads pads)
      refine .of_operand rfl rfl (.call_of_reads (ValueType.isWord_wgsl _) all ?_)
      simp [some.ne']
  | @sum left right first second inner leftParses rightParses read ihLeft ihRight =>
      have text : (Term.sum left right).text = _ := BinaryOperation.add.text_term left right
      exact .of_encloses (text ▸ .of_read read)
  | @product left right first second inner leftParses rightParses read ihLeft ihRight =>
      have text : (Term.product left right).text = _ := BinaryOperation.multiply.text_term left right
      exact .of_encloses (text ▸ .of_read read)
  | mix leftParses rightParses factorParses ihLeft ihRight ihFactor =>
      have all : ReadsAll alphabet _ _ :=
        .cons ihLeft.read (.cons ihRight.read (.cons ihFactor.read .nil))
      exact .of_operand rfl rfl (.call_of_reads (.of_all rfl) all (List.cons_ne_nil _ _))
  | normalize parses ih =>
      have all : ReadsAll alphabet _ _ := .cons ih.read .nil
      exact .of_operand rfl rfl (.call_of_reads (.of_all rfl) all (List.cons_ne_nil _ _))
  | sample textureWord samplerWord coordinateParses levelParses ihCoordinate ihLevel =>
      have all : ReadsAll alphabet _ _ := .cons (Reading.Spells.word textureWord).read
        (.cons (Reading.Spells.word samplerWord).read
          (.cons ihCoordinate.read (.cons ihLevel.read .nil)))
      exact .of_operand rfl rfl (.call_of_reads (.of_all rfl) all (List.cons_ne_nil _ _))

/-- An operation on readable operands is readable. -/
theorem exists_operation (operation : BinaryOperation) (leftParses : left.Parses alphabet first)
    (rightParses : right.Parses alphabet second) :
    ∃ reading, (operation.term left right).Parses alphabet reading := by
  obtain ⟨inner, read, _⟩ :=
    operation.read_operands leftParses.spells.read rightParses.spells.read
  exact ⟨_, .operation operation leftParses rightParses read⟩

/-! ### Parts -/

/-- The parts of both operands stay together, whatever the operator takes. -/
theorem operand_parts (operation : BinaryOperation) {inner : Expression}
    (leftParses : left.Parses alphabet first) (rightParses : right.Parses alphabet second)
    (read : alphabet.read? (left.text ++ operation.separator ++ right.text) = some inner) :
    (inner = .binary operation.operator first second ↔ operation.operator.Takes first second) ∧
      ∀ part : Expression, part.isBinary = false →
        part ∈ first.parts ∨ part ∈ second.parts → part ∈ inner.parts := by
  obtain ⟨whole, known, takes, parts⟩ :=
    operation.read_operands leftParses.spells.read rightParses.spells.read
  obtain rfl : inner = whole := Option.some.inj (read.symm.trans known)
  exact ⟨takes, parts⟩

/-- What lies in an operand lies in the operation. -/
theorem operand_liesIn {sub : Term} (operation : BinaryOperation) {inner : Expression}
    (leftParses : left.Parses alphabet first) (rightParses : right.Parses alphabet second)
    (read : alphabet.read? (left.text ++ operation.separator ++ right.text) = some inner)
    (lies : sub.LiesIn alphabet first ∨ sub.LiesIn alphabet second) :
    sub.LiesIn alphabet (.group inner) := by
  have kept := (operand_parts operation leftParses rightParses read).2
  obtain lies | lies := lies
  · exact lies.within fun part simple known => .tail _ (kept part simple (.inl known))
  · exact lies.within fun part simple known => .tail _ (kept part simple (.inr known))

/-- Every part of a term is read as a part of the whole unless it is loose, by induction on the term. -/
theorem part {sub : Term} (parses : term.Parses alphabet expression) (member : sub ∈ term.parts) :
    sub.LiesIn alphabet expression := by
  induction parses with
  | verbatim read => exact List.mem_singleton.mp member ▸ .itself (.verbatim read)
  | number => exact List.mem_singleton.mp member ▸ .itself .number
  | name word => exact List.mem_singleton.mp member ▸ .itself (.name word)
  | field objectWord memberWord =>
      exact List.mem_singleton.mp member ▸ .itself (.field objectWord memberWord)
  | group parses ih =>
      rcases List.mem_cons.mp member with rfl | inside
      · exact .itself (.group parses)
      · exact (ih inside).within fun part _ => .tail _
  | lanes enclosed some parses ih =>
      rcases List.mem_cons.mp member with rfl | inside
      · exact .itself (.lanes enclosed some parses)
      · exact (ih inside).within fun part _ => .tail _
  | vector some parses ih =>
      rcases List.mem_cons.mp member with rfl | inside
      · exact .itself (.vector some parses)
      · refine (ih inside).argument (List.mem_append_left _ ?_)
        exact List.mem_replicate.mpr ⟨some.ne', rfl⟩
  | sum leftParses rightParses read ihLeft ihRight =>
      rcases List.mem_cons.mp member with rfl | inside
      · exact .itself (.sum leftParses rightParses read)
      · have lies := (List.mem_append.mp inside).imp ihLeft ihRight
        exact operand_liesIn .add leftParses rightParses read lies
  | product leftParses rightParses read ihLeft ihRight =>
      rcases List.mem_cons.mp member with rfl | inside
      · exact .itself (.product leftParses rightParses read)
      · have lies := (List.mem_append.mp inside).imp ihLeft ihRight
        exact operand_liesIn .multiply leftParses rightParses read lies
  | mix leftParses rightParses factorParses ihLeft ihRight ihFactor =>
      rcases List.mem_cons.mp member with rfl | inside
      · exact .itself (.mix leftParses rightParses factorParses)
      · rcases List.mem_append.mp inside with inside | inside
        · exact (ihLeft inside).argument (by simp)
        · rcases List.mem_append.mp inside with inside | inside
          · exact (ihRight inside).argument (by simp)
          · exact (ihFactor inside).argument (by simp)
  | normalize parses ih =>
      rcases List.mem_cons.mp member with rfl | inside
      · exact .itself (.normalize parses)
      · exact (ih inside).argument (by simp)
  | sample textureWord samplerWord coordinateParses levelParses ihCoordinate ihLevel =>
      rcases List.mem_cons.mp member with rfl | inside
      · exact .itself (.sample textureWord samplerWord coordinateParses levelParses)
      · rcases List.mem_append.mp inside with inside | inside
        · exact (ihCoordinate inside).argument (by simp)
        · exact (ihLevel inside).argument (by simp)

/-- An operation is only read as a group around what its operator makes of the operands. -/
theorem operation_cases {operation : BinaryOperation}
    (parses : (operation.term left right).Parses alphabet expression) :
    ∃ first second inner, expression = .group inner ∧ left.Parses alphabet first ∧
      right.Parses alphabet second ∧
      alphabet.read? (left.text ++ operation.separator ++ right.text) = some inner := by
  cases operation with
  | add =>
      cases parses with
      | sum leftParses rightParses read => exact ⟨_, _, _, rfl, leftParses, rightParses, read⟩
  | multiply =>
      cases parses with
      | product leftParses rightParses read => exact ⟨_, _, _, rfl, leftParses, rightParses, read⟩

end Parses

/-- The term is read as an expression other than a binary operation, which an operator does not take
apart. -/
structure ReadsAs (alphabet : Alphabet) (term : Term) (expression : Expression) : Prop where
  parses : term.Parses alphabet expression
  simple : expression.isBinary = false

namespace ReadsAs

variable {alphabet : Alphabet} {term left right : Term} {expression first second : Expression}

/-- The text of a term is read as the expression of the term. -/
theorem read (reads : term.ReadsAs alphabet expression) :
    alphabet.read? term.text = some expression :=
  reads.parses.spells.read

/-- A number is read as its numeral. -/
theorem number (value : Single) :
    (Term.number value).ReadsAs alphabet (.ofNumeral (value.numeral .literal)) :=
  ⟨.number, Expression.ofNumeral_isBinary _⟩

/-- An operation on operands that are not loose is read as it is built. -/
theorem operation (operation : BinaryOperation) (leftReads : left.ReadsAs alphabet first)
    (rightReads : right.ReadsAs alphabet second) :
    (operation.term left right).ReadsAs alphabet
      (.group (.binary operation.operator first second)) := by
  obtain ⟨inner, read, same, _⟩ := operation.read_operands leftReads.read rightReads.read
  have takes : operation.operator.Takes first second :=
    ⟨Expression.isTight_of_simple leftReads.simple _, Expression.isTight_of_simple rightReads.simple _⟩
  rw [same.mpr takes] at read
  exact ⟨.operation operation leftReads.parses rightReads.parses read, rfl⟩

end ReadsAs

end Term

/-- How an operation is read: in parentheses, and in these as the operation on what its operands are
read as if and only if the operator takes them. -/
structure BinaryOperation.Reads (alphabet : Alphabet) (operation : BinaryOperation)
    (left right : Term) (first second inner : Expression) : Prop where
  leftRead : alphabet.read? left.text = some first
  rightRead : alphabet.read? right.text = some second
  read : alphabet.read? (operation.term left right).text = some (.group inner)
  takes : inner = .binary operation.operator first second ↔
    operation.operator.Takes first second
  leftLoose : first.isBinary → ∃ text, left = .verbatim text
  rightLoose : second.isBinary → ∃ text, right = .verbatim text

/-- Every operation in a term is read in its parentheses wherever it stands. -/
theorem Term.Parses.operations {alphabet : Alphabet} {term left right : Term} {whole : Expression}
    {operation : BinaryOperation} (parses : term.Parses alphabet whole)
    (member : operation.term left right ∈ term.parts) :
    ∃ first second inner, operation.Reads alphabet left right first second inner ∧
      .group inner ∈ whole.parts := by
  obtain ⟨reading, inside, part⟩ := parses.part member
  obtain ⟨first, second, inner, rfl, leftParses, rightParses, read⟩ := inside.operation_cases
  refine ⟨first, second, inner, ⟨leftParses.spells.read, rightParses.spells.read,
    inside.spells.read, ?_, leftParses.spells.verbatim, rightParses.spells.verbatim⟩, part rfl⟩
  exact (operand_parts operation leftParses rightParses read).1

end ShadeTree
