import ShadeTree.Proofs.Config.Accepted
import ShadeTree.Proofs.Declaration.Typing
import ShadeTree.Proofs.Reading.Words

/-!
The words of terms.

The words of a text that is put together from terms are the words of these terms and the names in
between, since every term stands between delimiters.
-/

namespace ShadeTree

open Number Reading

/-- The words of the text of a term, in their order. -/
def Term.words (alphabet : Alphabet) : Term → List String
  | verbatim text => alphabet.words text
  | number value => alphabet.words (value.numeral .literal).text
  | name identifier => [identifier]
  | field object member => [object, member]
  | group inner => inner.words alphabet
  | lanes value count => value.words alphabet ++ [laneNames count]
  | vector type copies value pads =>
    type.wgsl ::
      ((List.replicate copies (value.words alphabet)).flatten ++
        pads.flatMap fun pad => alphabet.words pad.text)
  | sum left right => left.words alphabet ++ right.words alphabet
  | product left right => left.words alphabet ++ right.words alphabet
  | mix left right factor =>
    "mix" :: (left.words alphabet ++ (right.words alphabet ++ factor.words alphabet))
  | normalize value => "normalize" :: value.words alphabet
  | sample texture sampler coordinate level =>
    "textureSampleLevel" :: texture :: sampler ::
      (coordinate.words alphabet ++ level.words alphabet)

/-- All declared names are words. -/
structure Declarations.Worded (declared : Declarations) : Prop where
  config : declared.config.Worded
  params : ∀ param ∈ declared.config.params, IsWord param.name
  locals : ∀ entry ∈ declared.locals, IsWord entry.name

variable {supply : Supply Empty} {declared : Declarations} {alphabet : Alphabet} {term : Term}
  {type : ValueType}

/-- The fields of the inputs are words. -/
theorem Declarations.Worded.member {name : String} (worded : declared.Worded)
    (member : (name, type) ∈ declared.config.members) : IsWord name := by
  simp only [Config.members, List.mem_cons, Prod.mk.injEq, List.not_mem_nil, or_false] at member
  obtain ⟨rfl, _⟩ | ⟨rfl, _⟩ | ⟨rfl, _⟩ := member
  · exact worded.config.uvField
  · exact worded.config.normalField
  · exact worded.config.viewNormalField

/-- The names of lanes are words. -/
theorem Narrowing.isWord {source target : ValueType} {count : Nat}
    (narrowing : Narrowing source target count) : IsWord (Term.laneNames count) := by
  cases narrowing with
  | pairScalar | tripleScalar | quadrupleScalar | triplePair | quadruplePair | quadrupleTriple =>
      exact .of_all rfl

/-- The words of the text of a term are those that it is built from. -/
theorem Term.HasType.words_text (typed : term.HasType supply declared type)
    (worded : declared.Worded) : alphabet.words term.text = term.words alphabet := by
  induction typed with
  | @verbatim value text supplied brought =>
      have same : (Term.verbatim text).text = text := rfl
      rw [same, Term.words]
  | @number value =>
      have same : (Term.number value).text = (value.numeral .literal).text := rfl
      rw [same, Term.words]
  | held member => exact Alphabet.words_of_isWord (worded.locals _ member)
  | parameter member => exact Alphabet.words_of_isWord (worded.params _ member)
  | @field name type member =>
      have word := worded.member member
      change alphabet.words (declared.config.inputName ++ "." ++ name) = _
      rw [Alphabet.words_separated rfl, Alphabet.words_of_isWord worded.config.inputName,
        Alphabet.words_of_isWord word, Term.words]
      rfl
  | @group inner type typed ih =>
      change alphabet.words ("(" ++ inner.text ++ ")") = _
      rw [Alphabet.words_close rfl, Alphabet.words_open rfl, ih, Term.words]
  | @lanes value source target count narrowing typed ih =>
      change alphabet.words (value.text ++ "." ++ Term.laneNames count) = _
      rw [Alphabet.words_separated rfl, ih, Alphabet.words_of_isWord narrowing.isWord, Term.words]
  | @vector value source target copies pads composes typed ih =>
      change alphabet.words (target.wgsl ++
        Term.arguments (List.replicate copies value.text ++ pads.map Pad.text)) = _
      rw [Alphabet.words_call, Alphabet.words_of_isWord (ValueType.isWord_wgsl target),
        List.flatMap_append, List.flatMap_replicate, ih, List.flatMap_map, Term.words,
        List.singleton_append]
  | @sum first second type leftTyped rightTyped left right =>
      change alphabet.words ("(" ++ first.text ++ " + " ++ second.text ++ ")") = _
      rw [Alphabet.words_close rfl, Alphabet.words_separated rfl, Alphabet.words_open rfl, left,
        right, Term.words]
  | @product first second type leftTyped rightTyped left right
  | @turned first second leftTyped rightTyped left right =>
      change alphabet.words ("(" ++ first.text ++ " * " ++ second.text ++ ")") = _
      rw [Alphabet.words_close rfl, Alphabet.words_separated rfl, Alphabet.words_open rfl, left,
        right, Term.words]
  | @mix first second third type leftTyped rightTyped factorTyped left right factor =>
      change alphabet.words ("mix" ++ Term.arguments [first.text, second.text, third.text]) = _
      have callee : IsWord "mix" := .of_all rfl
      rw [Alphabet.words_call, Alphabet.words_of_isWord callee]
      simp [left, right, factor, Term.words]
  | @normalize value typed ih =>
      change alphabet.words ("normalize" ++ Term.arguments [value.text]) = _
      have callee : IsWord "normalize" := .of_all rfl
      rw [Alphabet.words_call, Alphabet.words_of_isWord callee]
      simp [ih, Term.words]
  | @sample binding place level type member typed dimensioned levelTyped coordinate detail =>
      change alphabet.words ("textureSampleLevel" ++
        Term.arguments [Identifier.textureVariable binding.name,
          Identifier.samplerVariable binding.name, place.text, level.text]) = _
      have callee : IsWord "textureSampleLevel" := .of_all rfl
      rw [Alphabet.words_call, Alphabet.words_of_isWord callee]
      simp [coordinate, detail, Term.words,
        Alphabet.words_of_isWord (Identifier.isWord_textureVariable _),
        Alphabet.words_of_isWord (Identifier.isWord_samplerVariable _)]

end ShadeTree
