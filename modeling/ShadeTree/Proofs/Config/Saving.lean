import ShadeTree.Proofs.Config.Accepted
import ShadeTree.Proofs.Config.RoundTrip
import ShadeTree.Proofs.Number.Reload

/-!
Numbers in documents.

JSON gives every finite number back, so that of the numbers in a document nothing else is asked. A
reader that rounds twice would lose one number and its negation.
-/

namespace ShadeTree

open Number

namespace Number.Single

variable {number : Single}

/-- A literal is no integer, and is read as a number of double precision. -/
theorem readSingle_literal (finite : number.isFinite) :
    (Json.number (number.numeral .literal)).readSingle = .ok number := by
  have shaped : (number.numeral .literal).isReal := number.numeral_isReal rfl
  have real : (!(number.numeral .literal).fraction.isEmpty ||
      (number.numeral .literal).exponent.isSome) = true :=
    Bool.and_elim_right shaped
  obtain ⟨value, read, converted⟩ := Option.map_eq_some_iff.mp (real_literal finite)
  rw [Json.readSingle, Numeral.quantity?, if_pos real, read]
  exact congrArg Except.ok converted

/-- Every finite number is recovered from its literal, and no other number has one. -/
theorem recovered_iff : number.Recovered ↔ number.isFinite :=
  ⟨fun recovered => recovered.1, fun finite => ⟨finite, readSingle_literal finite⟩⟩

end Number.Single

namespace Json

variable {number : Single}

/-- A document holds a finite number as its literal. -/
theorem text_ofSingle (finite : number.isFinite) :
    (ofSingle number).text = (number.numeral .literal).text := by
  rw [ofSingle, if_pos finite]
  rfl

/-- A document that is a literal alone is read as the number. -/
theorem readDocument_literal (finite : number.isFinite) :
    readDocument readSingle (number.numeral .literal).text = .ok number := by
  have recovered := Single.recovered_iff.mpr finite
  rw [← text_ofSingle finite, readDocument_text (ofSingle_valid recovered)]
  exact readSingle_ofSingle recovered

end Json

namespace NodeDescription

/-- The values of a context are a map, and a number is finite. -/
def Proper : NodeDescription → Prop
  | .context values _ _ => KeyMap.Ascending values
  | .float value _ => value.isFinite
  | _ => True

/-- A tree of finite numbers. -/
inductive Savable : NodeDescription → Prop
  | intro {node : NodeDescription} (proper : node.Proper)
      (children : ∀ child ∈ node.children, Savable child) : Savable node

/-- That numbers are recovered asks of a node no more than that they are finite. -/
theorem exact_iff {node : NodeDescription} : node.Exact ↔ node.Proper := by
  cases node with
  | float value isConst => exact Single.recovered_iff
  | context | physicalContext | contextValue | math | expression | normal | environmentSample =>
      exact Iff.rfl

/-- Trees can be stored exactly if their numbers are finite and their maps in order. -/
theorem storable_iff {node : NodeDescription} : node.Storable ↔ node.Savable := by
  constructor
  · intro storable
    induction storable with
    | intro exact _ ih => exact .intro (exact_iff.mp exact) ih
  · intro savable
    induction savable with
    | intro proper _ ih => exact .intro (exact_iff.mpr proper) ih

end NodeDescription

/-- The literal of every finite number is what a document holds of it, and is read as the number. So
is every number in the document of a graph or of a configuration that is accepted. -/
theorem finite_numbers_reload :
    (∀ number : Single, number.isFinite →
      ∃ text, number.literal? = some text ∧ (Json.ofSingle number).text = text ∧
        Json.readDocument Json.readSingle text = .ok number) ∧
    (∀ graph : GraphDescription, graph.root.Savable → graph.toJson.depth ≤ Json.depthLimit →
      GraphDescription.parse graph.toText = .ok graph) ∧
    (∀ config : Config, config.validate = .ok () → Config.parse config.toText = .ok config) := by
  refine ⟨fun number finite => ?_, fun graph savable => ?_, fun config accepted => ?_⟩
  · have literal : number.literal? = some (number.numeral .literal).text := if_pos finite
    exact ⟨_, literal, Json.text_ofSingle finite, Json.readDocument_literal finite⟩
  · exact GraphDescription.parse_toText (NodeDescription.storable_iff.mpr savable)
  · have finite := Config.isFinite_envMaxMip accepted
    exact Config.parse_toText accepted (Single.recovered_iff.mpr finite)

/-- What a document holds of a finite number is its literal. A reader that takes the nearest number of
double precision and then the nearest number of single precision gives the number back, sign and
all, but for one number and its negation, which it takes for their neighbours away from zero. -/
theorem literal_read_twice (number : Single) (finite : number.isFinite) :
    ∃ text numeral, number.literal? = some text ∧ (Json.ofSingle number).text = text ∧
      Numeral.read? text.toList = some numeral ∧
      ∀ read : Single, read.ReadTwice numeral ↔
        read = if number.magnitude = Single.lostTwice then
          ⟨number.negative, Single.lostTwice + 1⟩ else number := by
  have written : number.literal? = some (number.numeral .literal).text := if_pos finite
  have legible : Numeral.read? (number.numeral .literal).text.toList =
      some (number.numeral .literal) := by
    rw [Numeral.text, String.toList_ofList]
    exact Numeral.read_toList (number.numeral_wellFormed .literal)
  refine ⟨_, _, written, Json.text_ofSingle finite, legible, fun read => ?_⟩
  rw [Single.readTwice_iff, Single.nearest_literal finite]

/-- The exception lies so close to a middle that the nearest number of double precision to its literal
is that middle, whose even neighbour is the next number. -/
theorem literal_read_twice_exception :
    (Single.ofWord 0x15ae43fd).isFinite ∧
      ∃ text numeral, (Single.ofWord 0x15ae43fd).literal? = some text ∧
        (Json.ofSingle (Single.ofWord 0x15ae43fd)).text = text ∧
        Numeral.read? text.toList = some numeral ∧
        ∀ read : Single, read.ReadTwice numeral ↔ read = Single.ofWord 0x15ae43fe := by
  have finite : (Single.ofWord 0x15ae43fd).isFinite := by decide
  exact ⟨finite, literal_read_twice _ finite⟩

/-- Rounded twice, the literal is not read as the number that it was written for. -/
theorem literal_lost_twice :
    (Single.ofWord 0x15ae43fd).isFinite ∧
      (Single.ofWord 0x15ae43fd).literal? = some "7.038531e-26" ∧
      ∃ numeral, Numeral.read? "7.038531e-26".toList = some numeral ∧
        ¬ (Single.ofWord 0x15ae43fd).ReadTwice numeral := by
  refine ⟨by decide, by decide +kernel, ⟨false, ['7'], ['0', '3', '8', '5', '3', '1'],
    some (.minus, ['2', '6'])⟩, by decide +kernel, ?_⟩
  rw [Single.readTwice_iff]
  decide +kernel

end ShadeTree
