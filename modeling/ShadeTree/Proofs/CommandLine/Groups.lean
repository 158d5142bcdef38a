import ShadeTree.CommandLine

/-!
The groups of a command line.

The arguments are groups in a row: options with a value behind each of them, and a flag. A value may
look like an option, for what an argument is depends on those in front of it. There is one way to
group the arguments, and what they ask for is said by the last group of each kind.
-/

namespace ShadeTree

/-! ### Spellings -/

namespace Text

variable {front word back : List Char}

/-- A blank character is no letter, and so has no other case. -/
theorem toLower_of_isBlank {character : Char} (blank : isBlank character) :
    character.toLower = character := by
  have noLetter : ¬ (character.val ≥ 'A'.val ∧ character.val ≤ 'Z'.val) := by
    rintro ⟨low, high⟩
    have bounds : 65 ≤ character.toNat ∧ character.toNat ≤ 90 := ⟨low, high⟩
    unfold isBlank at blank
    simp only [Bool.or_eq_true, Bool.and_eq_true, decide_eq_true_eq, beq_iff_eq] at blank
    omega
  exact dif_neg noLetter

/-- Nothing is trimmed off a word without blanks. -/
theorem dropWhile_of_solid (solid : ∀ character ∈ word, isBlank character = false) :
    word.dropWhile isBlank = word := by
  cases word with
  | nil => rfl
  | cons first rest =>
      have visible : ¬ isBlank first := by simp [solid first (List.mem_cons_self ..)]
      exact List.dropWhile_cons_of_neg visible

/-- A text is what is left of it, with the white space that was taken away on both sides. -/
theorem exists_trim (text : String) :
    ∃ front back, text.toList = front ++ (trim text).toList ++ back ∧
      (∀ character ∈ front, isBlank character) ∧ ∀ character ∈ back, isBlank character := by
  have opening := List.takeWhile_append_dropWhile (p := isBlank) (l := text.toList)
  generalize rest : text.toList.dropWhile isBlank = last at opening
  have closing := List.takeWhile_append_dropWhile (p := isBlank) (l := last.reverse)
  have turned := congrArg List.reverse closing
  rw [List.reverse_append, List.reverse_reverse] at turned
  refine ⟨text.toList.takeWhile isBlank, (last.reverse.takeWhile isBlank).reverse, ?_, ?_, ?_⟩
  · rw [trim, rest, String.toList_ofList, List.append_assoc, turned, opening]
  · exact List.all_eq_true.mp List.all_takeWhile
  · intro character member
    exact List.all_eq_true.mp List.all_takeWhile character (List.mem_reverse.mp member)

/-- What has no white space in it is all that is left. -/
theorem trim_eq {text : String} (spelled : text.toList = front ++ word ++ back)
    (before : ∀ character ∈ front, isBlank character)
    (after : ∀ character ∈ back, isBlank character)
    (solid : ∀ character ∈ word, isBlank character = false) : trim text = String.ofList word := by
  have solidReverse : ∀ character ∈ word.reverse, isBlank character = false :=
    fun character member => solid character (List.mem_reverse.mp member)
  have afterReverse : ∀ character ∈ back.reverse, isBlank character :=
    fun character member => after character (List.mem_reverse.mp member)
  have trimmed : ((word ++ back).dropWhile isBlank).reverse.dropWhile isBlank = word.reverse := by
    cases word with
    | nil =>
        have gone : (back ++ []).dropWhile isBlank = [] := List.dropWhile_append_of_pos after
        rw [List.append_nil] at gone
        rw [List.nil_append, gone]
        rfl
    | cons first rest =>
        have visible : ¬ isBlank first := by simp [solid first (List.mem_cons_self ..)]
        rw [List.cons_append, List.dropWhile_cons_of_neg visible, ← List.cons_append,
          List.reverse_append, List.dropWhile_append_of_pos afterReverse,
          dropWhile_of_solid solidReverse]
  rw [trim, spelled, List.append_assoc, List.dropWhile_append_of_pos before, trimmed,
    List.reverse_reverse]

end Text

namespace ValueType

variable {type : ValueType} {spelling : String}

/-- The names of a type, in lower case. -/
def names : ValueType → List String
  | f32 => ["f32", "float"]
  | vec2 => ["vec2f", "vec2", "vector2"]
  | vec3 => ["vec3f", "vec3", "vector3"]
  | vec4 => ["vec4f", "vec4", "vector4", "color"]
  | mat4 => ["mat4x4f", "mat4"]

/-- A name of the type with letters of either case, and with white space around it. -/
def IsSpelling (type : ValueType) (spelling : String) : Prop :=
  ∃ front word back, spelling.toList = front ++ word ++ back ∧
    (∀ character ∈ front, Text.isBlank character) ∧
    (∀ character ∈ back, Text.isBlank character) ∧
    String.ofList (word.map Char.toLower) ∈ type.names

theorem ofName_of_mem {name : String} (member : name ∈ type.names) : ofName? name = some type := by
  revert name
  cases type with
  | f32 | vec2 | vec3 | vec4 | mat4 => decide

/-- A name is that of a type exactly if the type lists it. -/
theorem ofName_eq_some_iff {name : String} : ofName? name = some type ↔ name ∈ type.names := by
  refine ⟨fun found => ?_, ofName_of_mem⟩
  unfold ofName? at found
  split at found <;> cases found <;> simp [names]

theorem names_solid {name : String} (member : name ∈ type.names) :
    ∀ character ∈ name.toList, Text.isBlank character = false := by
  have all : type.names.all fun name => name.toList.all fun character =>
      !Text.isBlank character := by
    cases type with
    | f32 | vec2 | vec3 | vec4 | mat4 => rfl
  intro character inside
  simpa using List.all_eq_true.mp (List.all_eq_true.mp all name member) character inside

/-- Exactly the spellings of a type are read as the type. -/
theorem ofSpelling_eq_some_iff : ofSpelling? spelling = some type ↔ type.IsSpelling spelling := by
  rw [ofSpelling?, ofName_eq_some_iff]
  constructor
  · intro member
    obtain ⟨front, back, spelled, before, after⟩ := Text.exists_trim spelling
    exact ⟨front, _, back, spelled, before, after, member⟩
  · rintro ⟨front, word, back, spelled, before, after, member⟩
    have solid : ∀ character ∈ word, Text.isBlank character = false := by
      intro character inside
      rw [← Bool.not_eq_true]
      intro blank
      have lowered := names_solid member character.toLower (by
        rw [String.toList_ofList]
        exact List.mem_map_of_mem inside)
      rw [Text.toLower_of_isBlank blank, blank] at lowered
      cases lowered
    rw [Text.fold, Text.trim_eq spelled before after solid, String.toList_ofList]
    exact member

end ValueType

/-! ### Groups -/

namespace Options

/-- What belongs together on a command line. -/
inductive Group where
  | graph (path : String)
  | config (path : String)
  | output (type : ValueType) (spelling : String) (spelled : type.IsSpelling spelling)
  | validate

namespace Group

def arguments : Group → List String
  | graph path => ["--graph-json", path]
  | config path => ["--config", path]
  | output _ spelling _ => ["--output", spelling]
  | validate => ["--validate"]

def graph? : Group → Option String
  | graph path => some path
  | config _ | output .. | validate => none

def config? : Group → Option String
  | config path => some path
  | graph _ | output .. | validate => none

def output? : Group → Option ValueType
  | output type .. => some type
  | graph _ | config _ | validate => none

def isValidate : Group → Bool
  | validate => true
  | graph _ | config _ | output .. => false

end Group

/-- The last value of each option counts. -/
def ofGroups (groups : List Group) : Options where
  graph := (groups.filterMap Group.graph?).getLast?
  config := (groups.filterMap Group.config?).getLast?
  output := (groups.filterMap Group.output?).getLast?
  validate := groups.any Group.isValidate

/-- What later arguments ask for takes precedence. -/
def override (options later : Options) : Options where
  graph := later.graph.or options.graph
  config := later.config.or options.config
  output := later.output.or options.output
  validate := options.validate || later.validate

/-- Options that override others can be collected in any order. -/
theorem override_assoc (first second third : Options) :
    (first.override second).override third = first.override (second.override third) := by
  simp only [override, Option.or_assoc, Bool.or_assoc]

theorem override_none (options : Options) : options.override (ofGroups []) = options := by
  simp [override, ofGroups]

theorem none_override (options : Options) : override {} options = options := by
  simp [override]

/-- The options of groups in a row are those of the first ones, overridden by those of the
others. -/
theorem ofGroups_append (first second : List Group) :
    ofGroups (first ++ second) = (ofGroups first).override (ofGroups second) := by
  simp only [ofGroups, override, List.filterMap_append, List.getLast?_append, List.any_append]

/-! ### Runs over the groups -/

/-- One group is taken off the arguments, whatever stands behind it. -/
theorem parseFrom_group (options : Options) (group : Group) (rest : List String) :
    parseFrom options (group.arguments ++ rest) =
      parseFrom (options.override (ofGroups [group])) rest := by
  cases group with
  | graph path | config path | validate =>
      simp [Group.arguments, parseFrom, override, ofGroups, Group.isValidate, Group.graph?,
        Group.config?, Group.output?]
  | output type spelling spelled =>
      have found := ValueType.ofSpelling_eq_some_iff.mpr spelled
      simp [Group.arguments, parseFrom, found, override, ofGroups, Group.isValidate, Group.graph?,
        Group.config?, Group.output?]

/-- Groups in front are taken off the arguments one after another. -/
theorem parseFrom_groups (options : Options) (groups : List Group) (rest : List String) :
    parseFrom options (groups.flatMap Group.arguments ++ rest) =
      parseFrom (options.override (ofGroups groups)) rest := by
  induction groups generalizing options with
  | nil => rw [List.flatMap_nil, List.nil_append, override_none]
  | cons group others ih =>
      rw [List.flatMap_cons, List.append_assoc, parseFrom_group, ih, override_assoc,
        ← ofGroups_append, List.singleton_append]

/-- Arguments that do not open with a group. What was asked for before makes no difference. -/
def Stuck (arguments : List String) : Prop :=
  ∃ error, ∀ options, parseFrom options arguments = .error error

/-- Groups in a row, with nothing behind them or what no group can be taken from. -/
def Grouped (arguments : List String) : Prop :=
  ∃ (groups : List Group) (rest : List String),
    groups.flatMap Group.arguments ++ rest = arguments ∧ (rest = [] ∨ Stuck rest)

variable {arguments : List String}

/-- Arguments that no group opens are grouped by no groups and what is stuck. -/
theorem Stuck.grouped (stuck : Stuck arguments) : Grouped arguments :=
  ⟨[], arguments, rfl, .inr stuck⟩

/-- A group in front of grouped arguments is one group more. -/
theorem Grouped.append (group : Group) (grouped : Grouped arguments) :
    Grouped (group.arguments ++ arguments) := by
  obtain ⟨groups, rest, spelled, ended⟩ := grouped
  exact ⟨group :: groups, rest, by rw [List.flatMap_cons, List.append_assoc, spelled], ended⟩

/-- Groups are taken off in front for as long as there are any. -/
theorem grouped (arguments : List String) : Grouped arguments := by
  fun_induction parseFrom {} arguments with
  | case1 => exact ⟨[], [], rfl, .inl rfl⟩
  | case2 _ path rest ih => exact ih.append (.graph path)
  | case4 _ path rest ih => exact ih.append (.config path)
  | case6 _ spelling rest type found ih =>
      exact ih.append (.output type spelling (ValueType.ofSpelling_eq_some_iff.mp found))
  | case9 _ rest ih => exact ih.append .validate
  | case3 | case5 | case8 => exact Stuck.grouped ⟨_, fun _ => rfl⟩
  | case7 _ spelling rest missed =>
      exact Stuck.grouped ⟨.unknownType spelling, fun _ => by rw [parseFrom, missed]⟩
  | case10 _ argument rest =>
      refine Stuck.grouped ⟨.unknownArgument argument, fun options => ?_⟩
      rw [parseFrom]
      all_goals assumption

/-- A parse goes through all groups, or ends with what is stuck behind them. -/
theorem parseFrom_cases (arguments : List String) :
    (∃ groups : List Group, groups.flatMap Group.arguments = arguments ∧
      ∀ options, parseFrom options arguments = .ok (options.override (ofGroups groups))) ∨
    ∃ error, ∀ options, parseFrom options arguments = .error error := by
  obtain ⟨groups, rest, rfl, rfl | ⟨error, stuck⟩⟩ := grouped arguments
  · refine .inl ⟨groups, (List.append_nil _).symm, fun options => ?_⟩
    rw [parseFrom_groups, parseFrom]
  · refine .inr ⟨error, fun options => ?_⟩
    rw [parseFrom_groups, stuck]

/-- What was asked for before is asked for still where later arguments do not say otherwise. -/
theorem parseFrom_eq (options : Options) (arguments : List String) :
    parseFrom options arguments = (parse arguments).map options.override := by
  rcases parseFrom_cases arguments with ⟨groups, -, parsed⟩ | ⟨error, stuck⟩
  · rw [parsed, parse, parsed, none_override]
    rfl
  · rw [stuck, parse, stuck]
    rfl

/-- Exactly the arguments that are groups in a row are accepted, with the options of the groups. -/
theorem parse_eq_ok_iff {options : Options} :
    parse arguments = .ok options ↔
      ∃ groups : List Group, groups.flatMap Group.arguments = arguments ∧ ofGroups groups = options := by
  constructor
  · intro done
    rcases parseFrom_cases arguments with ⟨groups, spelled, parsed⟩ | ⟨error, stuck⟩
    · rw [parse, parsed, none_override] at done
      exact ⟨groups, spelled, Except.ok.inj done⟩
    · rw [parse, stuck] at done
      cases done
  · rintro ⟨groups, rfl, rfl⟩
    have parsed := parseFrom_groups {} groups []
    rwa [List.append_nil, none_override, parseFrom] at parsed

/-- The first argument tells which group it is and where it ends. -/
theorem Group.arguments_append_inj {first second : Group} {rest others : List String}
    (same : first.arguments ++ rest = second.arguments ++ others) :
    first = second ∧ rest = others := by
  cases first with
  | graph path | config path | validate =>
      cases second with
      | graph other | config other | validate | output type spelling spelled =>
          simp_all [arguments]
  | output type spelling spelled =>
      cases second with
      | graph path | config path | validate => simp [arguments] at same
      | output other again respelled =>
          obtain ⟨rfl, rfl⟩ : spelling = again ∧ rest = others := by simpa [arguments] using same
          have found := ValueType.ofSpelling_eq_some_iff.mpr spelled
          rw [ValueType.ofSpelling_eq_some_iff.mpr respelled] at found
          obtain rfl := Option.some.inj found
          exact ⟨rfl, rfl⟩

/-- A group is made of one argument at least. -/
theorem Group.arguments_ne_nil (group : Group) : group.arguments ≠ [] := by
  cases group with
  | graph | config | output | validate => exact List.cons_ne_nil _ _

/-- There is one way at most to group arguments. -/
theorem groups_injective :
    Function.Injective fun groups : List Group => groups.flatMap Group.arguments := by
  intro first second same
  dsimp only at same
  induction first generalizing second with
  | nil =>
      cases second with
      | nil => rfl
      | cons group others =>
          exact absurd (List.append_eq_nil_iff.mp same.symm).1 group.arguments_ne_nil
  | cons group rest ih =>
      cases second with
      | nil => exact absurd (List.append_eq_nil_iff.mp same).1 group.arguments_ne_nil
      | cons other others =>
          obtain ⟨rfl, behind⟩ := Group.arguments_append_inj same
          rw [ih behind]

/-- Arguments are accepted if they are groups in a row, and then there is one way to group them. They
ask for what the last group of each kind says. Behind arguments that are accepted, others ask for what
they ask for alone and take precedence, or fail as they do alone. -/
theorem parse_groups :
    (∀ arguments options, parse arguments = .ok options ↔
      ∃ groups : List Group, groups.flatMap Group.arguments = arguments ∧
        ofGroups groups = options) ∧
    Function.Injective (fun groups : List Group => groups.flatMap Group.arguments) ∧
    ∀ front back options, parse front = .ok options →
      parse (front ++ back) = (parse back).map options.override := by
  refine ⟨fun _ _ => parse_eq_ok_iff, groups_injective, fun front back options done => ?_⟩
  obtain ⟨groups, rfl, rfl⟩ := parse_eq_ok_iff.mp done
  rw [parse, parseFrom_groups, none_override, parseFrom_eq]

/-- The first value of the configuration looks like a flag, and the second one takes its place. -/
theorem parse_groups_override :
    parse ["--config", "--validate", "--output", " Color\n"] =
        .ok ⟨none, some "--validate", some .vec4, false⟩ ∧
      parse (["--config", "--validate", "--output", " Color\n"] ++
          ["--validate", "--config", "dusk.json"]) =
        .ok ⟨none, some "dusk.json", some .vec4, true⟩ := by
  have front : parse ["--config", "--validate", "--output", " Color\n"] =
      .ok ⟨none, some "--validate", some .vec4, false⟩ := rfl
  exact ⟨front, parse_groups.2.2 _ ["--validate", "--config", "dusk.json"] _ front⟩

end Options

end ShadeTree
