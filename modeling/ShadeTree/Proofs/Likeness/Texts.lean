import ShadeTree.Proofs.Generation.Progress
import ShadeTree.Proofs.Likeness.Build
import ShadeTree.Proofs.Likeness.Reads

/-!
The texts of expressions decide nothing.

Generation passes texts on and never looks at them. So trees that differ in nothing but the texts of
their snippets and literals come to the same end, under configurations with any names, and declare the
same.
-/

namespace ShadeTree

variable {Host : Type}

/-! ### Trees without their texts -/

def Snippet.textless (snippet : Snippet) : Snippet :=
  { snippet with text := "" }

mutual

/-- The tree with empty texts in place of its snippets and literals, those in overrides included. -/
def Node.textless : Node Empty → Node Empty
  | .expression id _ type => .expression id "" type
  | .float id value isConst => .float id value isConst
  | .normal id space => .normal id space
  | .context id type overrides child =>
    .context id type (Value.textlessAll overrides) child.textless
  | .reader id key fallback => .reader id key fallback.textless
  | .sample id texture => .sample id texture
  | .binary id operation left right => .binary id operation left.textless right.textless
  | .mix id left right factor => .mix id left.textless right.textless factor.textless
  | .custom id label type content => .custom id label type content

def Value.textless : Value Empty → Value Empty
  | .node tree => .node tree.textless
  | .literal snippet => .literal snippet.textless

def Value.textlessAll : List (String × Value Empty) → List (String × Value Empty)
  | [] => []
  | (key, value) :: rest => (key, value.textless) :: Value.textlessAll rest

end

def Frames.textless (frames : Frames Empty) : Frames Empty :=
  frames.map Value.textlessAll

namespace Likeness

/-- Nothing differs but texts. -/
def upToTexts : Likeness :=
  { onKeys Set.univ with texts := False }

mutual

/-- Trees that are the same without their texts are alike, by induction on one of them. -/
theorem Nodes.of_textless : {left right : Node Empty} → left.textless = right.textless →
    upToTexts.Nodes left right
  | .expression .., right, same => by
      cases right with
      | expression =>
          obtain ⟨rfl, _, rfl⟩ := Node.expression.inj same
          exact .expression rfl False.elim
      | _ => cases same
  | .float .., right, same => by
      cases right with
      | float =>
          obtain ⟨rfl, rfl, rfl⟩ := Node.float.inj same
          exact .float rfl
      | _ => cases same
  | .normal .., right, same => by
      cases right with
      | normal =>
          obtain ⟨rfl, rfl⟩ := Node.normal.inj same
          exact .normal rfl
      | _ => cases same
  | .context .., right, same => by
      cases right with
      | context =>
          obtain ⟨rfl, rfl, overrides, child⟩ := Node.context.inj same
          exact .context rfl (Entries.of_textless overrides) (Nodes.of_textless child)
      | _ => cases same
  | .reader .., right, same => by
      cases right with
      | reader =>
          obtain ⟨rfl, rfl, fallback⟩ := Node.reader.inj same
          exact .reader rfl trivial (Nodes.of_textless fallback)
      | _ => cases same
  | .sample .., right, same => by
      cases right with
      | sample =>
          obtain ⟨rfl, rfl⟩ := Node.sample.inj same
          exact .sample rfl trivial trivial
      | _ => cases same
  | .binary .., right, same => by
      cases right with
      | binary =>
          obtain ⟨rfl, rfl, lefts, rights⟩ := Node.binary.inj same
          exact .binary rfl (Nodes.of_textless lefts) (Nodes.of_textless rights)
      | _ => cases same
  | .mix .., right, same => by
      cases right with
      | mix =>
          obtain ⟨rfl, lefts, rights, factors⟩ := Node.mix.inj same
          exact .mix rfl (Nodes.of_textless lefts) (Nodes.of_textless rights)
            (Nodes.of_textless factors)
      | _ => cases same
  | .custom _ _ _ content, _, _ => content.elim

/-- Values that are equal without their texts are of one shape up to texts. -/
theorem Values.of_textless : {left right : Value Empty} → left.textless = right.textless →
    upToTexts.Values left right
  | .node _, right, same => by
      cases right with
      | node => exact .node (Nodes.of_textless (Value.node.inj same))
      | literal => cases same
  | .literal ⟨_, _, _⟩, right, same => by
      cases right with
      | node => cases same
      | literal =>
          obtain ⟨_, rfl, rfl⟩ := Snippet.mk.inj (Value.literal.inj same)
          exact .literal False.elim

/-- Frames that are equal without their texts are of one shape up to texts. -/
theorem Entries.of_textless : {left right : List (String × Value Empty)} →
    Value.textlessAll left = Value.textlessAll right → upToTexts.Entries left right
  | [], [], _ => .nil
  | [], _ :: _, same | _ :: _, [], same => by cases same
  | (_, _) :: _, (_, _) :: _, same => by
      obtain ⟨entry, rest⟩ := List.cons.inj same
      obtain ⟨rfl, value⟩ := Prod.mk.inj entry
      exact .cons (Values.of_textless value) (Entries.of_textless rest)

end

/-- Frames that are the same without their texts resolve every key alike. -/
theorem find_of_textless {left right : Frames Empty} (same : left.textless = right.textless)
    (key : String) : Option.Rel upToTexts.Values (left.find? key) (right.find? key) := by
  induction left generalizing right with
  | nil =>
      cases right with
      | nil => exact .none
      | cons => cases same
  | cons frame outer ih =>
      cases right with
      | nil => cases same
      | cons other others =>
          obtain ⟨inner, rest⟩ := List.cons.inj same
          exact rel_or ((Entries.of_textless inner).find key) (ih rest)

end Likeness

/-! ### Builds -/

/-- What there is to a fragment apart from the text of its expression and the module around it. -/
structure Outline where
  type : ValueType
  isConst : Bool
  locals : List LocalVariable
  textures : List TextureBinding
  deriving DecidableEq

deriving instance DecidableEq for Outcome

def Fragment.outline (fragment : Fragment) : Outline :=
  ⟨fragment.expression.type, fragment.expression.isConst, fragment.locals, fragment.textures⟩

def Outcome.outline : Outcome Fragment → Outcome Outline
  | .done fragment => .done fragment.outline
  | .aborted cause => .aborted cause
  | .exhausted => .exhausted

namespace Likeness

/-- Fragments that are alike up to texts have one outline. -/
theorem Fragments.outline_eq {left right : Fragment} (same : upToTexts.Fragments left right) :
    left.outline = right.outline := by
  have locals : left.locals = right.locals :=
    List.forall₂_eq_eq_eq ▸ same.locals.imp fun _ _ alike => alike.eq id
  unfold Fragment.outline
  rw [same.expression.type, same.expression.isConst, locals, same.textures]

/-- Outcomes that are alike up to texts have one outline. -/
theorem Outcomes.outline_eq {left right : Outcome Fragment}
    (same : upToTexts.Outcomes upToTexts.Fragments left right) : left.outline = right.outline := by
  cases same with
  | done fragments => exact congrArg Outcome.done fragments.outline_eq
  | failed errors => rw [errors.eq id]
  | exhausted => rfl

end Likeness

/-- Trees that differ in the texts of their snippets and literals only, under frames that differ in
these only and with any two valid configurations, are built to the same end: either both give fragments
with the same type, flag, locals and textures, or both fail with the same error. -/
theorem build_ignores_texts (custom : Empty → NodeId → ValueType → Program Empty Host TypedTerm)
    (fuel : Nat) (left right : Node Empty) (output : ValueType) (start other : Machine Empty Host)
    (trees : left.textless = right.textless)
    (frames : start.builder.frames.textless = other.builder.frames.textless)
    (valid : start.builder.config.validate = .ok ())
    (alsoValid : other.builder.config.validate = .ok ()) :
    (Action.build (generate custom fuel) left output start).1.outline =
      (Action.build (generate custom fuel) right output other).1.outline := by
  have alike : Likeness.upToTexts.Nodes left right := .of_textless trees
  have configs : Likeness.upToTexts.Configs start.builder.config other.builder.config :=
    .inr ⟨id, Config.isFinite_envMaxMip valid, Config.isFinite_envMaxMip alsoValid⟩
  have ends := Likeness.Actions.build (alike.generate custom custom fuel output) start other configs
    fun key _ => Likeness.find_of_textless frames key
  exact ends.outcomes.outline_eq

/-- A sample is mixed with what a snippet shades a tint with. -/
def dyeTree (shade tint : String) : Node Empty :=
  .context 0 none [("tint", .literal ⟨tint, .vec4, true⟩)]
    (.mix 1 (.sample 2 "sky")
      (.binary 3 .multiply (.reader 4 "tint" (.float 5 (Number.Single.ofWord 0x3f800000) true))
        (.expression 6 shade .f32))
      (.float 7 (Number.Single.ofWord 0x3f000000) false))

/-- Another name for the inputs of the surface, and sharper samples. -/
def sharpConfig : Config :=
  { Config.default with inputName := "surface", envMaxMip := Number.Single.ofWord 0x3f800000 }

theorem dyeTree_ignores_texts :
    let left := dyeTree "shade(in.normal)" "vec4f(1.0)"
    let right := dyeTree "0.0" "dye"
    let start := Machine.mk (Builder.ofConfig Config.default) () []
    let other := Machine.mk (Builder.ofConfig sharpConfig) () []
    let outline : Outline := ⟨.vec4, false, [⟨7, "nf_float_0", .f32, "0.5"⟩], [⟨"sky", .plane⟩]⟩
    left.textless = right.textless ∧ Config.default.validate = .ok () ∧
      sharpConfig.validate = .ok () ∧
      (Action.build (generate Empty.elim 5) left .vec4 start).1.outline = .done outline ∧
      (Action.build (generate Empty.elim 5) right .vec4 other).1.outline = .done outline := by
  intro left right start other outline
  have valid : Config.default.validate = .ok () := rfl
  have alsoValid : sharpConfig.validate = .ok () := rfl
  have built : (Action.build (generate Empty.elim 5) left .vec4 start).1.outline = .done outline := by
    decide +kernel
  have same := build_ignores_texts Empty.elim 5 left right .vec4 start other rfl rfl valid alsoValid
  exact ⟨rfl, valid, alsoValid, built, same.symm.trans built⟩

end ShadeTree
