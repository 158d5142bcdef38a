import ShadeTree.Proofs.Declaration.Bindings
import ShadeTree.Proofs.Declaration.Names

/-!
The sections of a module.

A module can be taken apart again with nothing but its configuration. A field ends at a character that
it does not contain, a section at the first line that opens otherwise, and the expression is all that
is left before the end.
-/

namespace ShadeTree

open Number Reading

theorem dropPrefix_append (front back : List Char) :
    (front ++ back).dropPrefix? front = some back :=
  List.dropPrefix?_eq_some_iff.mpr ⟨front, rfl, beq_self_eq_true front⟩

theorem dropSuffix_append (front back : List Char) :
    (front ++ back).dropSuffix? back = some front :=
  List.dropSuffix?_eq_some_iff.mpr ⟨back, rfl, beq_self_eq_true back⟩

namespace Module

/-! ### Lines of fields -/

/-- Where a field ends: at the first such character, which has to open the text. -/
structure Stop where
  text : String
  character : Char
  opens : text.toList.head? = some character

namespace Stop

/-- The field in front of the stop, and what stands behind it. -/
def field? (stop : Stop) (text : List Char) : Option (String × List Char) :=
  let inside := fun character => character != stop.character
  ((text.dropWhile inside).dropPrefix? stop.text.toList).map fun rest =>
    (String.ofList (text.takeWhile inside), rest)

/-- A field is read up to its stop. -/
theorem field_append {stop : Stop} {field : String} (free : stop.character ∉ field.toList)
    (rest : List Char) :
    stop.field? (field.toList ++ (stop.text.toList ++ rest)) = some (field, rest) := by
  have inside : ∀ character ∈ field.toList, (character != stop.character) = true := by
    intro character member
    rw [bne_iff_ne]
    rintro rfl
    exact free member
  obtain ⟨tail, spelled⟩ := List.head?_eq_some_iff.mp stop.opens
  have stopped : (stop.text.toList ++ rest).dropWhile (· != stop.character) =
      stop.text.toList ++ rest := by
    simp [spelled]
  have none : (stop.text.toList ++ rest).takeWhile (· != stop.character) = [] := by
    simp [spelled]
  rw [field?, List.dropWhile_append_of_pos inside, List.takeWhile_append_of_pos inside, stopped, none,
    dropPrefix_append, List.append_nil, Option.map_some, String.ofList_toList]

end Stop

/-- The fields of a line. -/
abbrev Row := String × String × String

/-- How a line opens, and where its three fields end. -/
structure Layout where
  opening : String
  first : Stop
  second : Stop
  third : Stop

namespace Layout

variable {layout : Layout} {row : Row}

def line (layout : Layout) (row : Row) : String :=
  layout.opening ++ row.1 ++ layout.first.text ++ row.2.1 ++ layout.second.text ++ row.2.2 ++
    layout.third.text

def row? (layout : Layout) (text : List Char) : Option (Row × List Char) := do
  let text ← text.dropPrefix? layout.opening.toList
  let (first, text) ← layout.first.field? text
  let (second, text) ← layout.second.field? text
  let (third, text) ← layout.third.field? text
  return ((first, second, third), text)

/-- The rows of a section are read for as long as the lines open like a row. -/
def rows (layout : Layout) (text : List Char) : List Row × List Char :=
  match layout.row? text with
  | none => ([], text)
  | some (row, rest) =>
    if rest.length < text.length then
      let (rows, last) := layout.rows rest
      (row :: rows, last)
    else ([], text)
termination_by text.length

/-- No field contains the character at which it ends. -/
structure Fits (layout : Layout) (row : Row) : Prop where
  first : layout.first.character ∉ row.1.toList
  second : layout.second.character ∉ row.2.1.toList
  third : layout.third.character ∉ row.2.2.toList

/-- A line is read as its row, whatever stands behind it. -/
theorem row_append (fits : layout.Fits row) (rest : List Char) :
    layout.row? ((layout.line row).toList ++ rest) = some (row, rest) := by
  simp only [line, row?, String.toList_append, List.append_assoc, dropPrefix_append, Option.bind_eq_bind, Option.bind_some,
    Stop.field_append fits.first, Stop.field_append fits.second, Stop.field_append fits.third]
  rfl

/-- A text that does not open like a line is no row. -/
theorem row_none {text : List Char} (missed : text.dropPrefix? layout.opening.toList = none) :
    layout.row? text = none := by
  rw [row?, missed]
  rfl

/-- Lines in a row are read as their rows, up to a text that is none. -/
theorem rows_append {rows : List Row} (fits : ∀ row ∈ rows, layout.Fits row) {rest : List Char}
    (ended : layout.row? rest = none) :
    layout.rows ((String.join (rows.map layout.line)).toList ++ rest) = (rows, rest) := by
  rw [String.toList_join, List.flatMap_map]
  induction rows with
  | nil => rw [List.flatMap_nil, List.nil_append, Layout.rows, ended]
  | cons row others ih =>
      have shorter (rest : List Char) : rest.length < ((layout.line row).toList ++ rest).length := by
        obtain ⟨tail, spelled⟩ := List.head?_eq_some_iff.mp layout.third.opens
        simp [line, spelled]
        omega
      have later := ih fun other member => fits other (List.mem_cons_of_mem _ member)
      rw [List.flatMap_cons, List.append_assoc, Layout.rows,
        row_append (fits row (List.mem_cons_self ..))]
      dsimp only
      rw [if_pos (shorter _), later]

end Layout

/-! ### Reading a module -/

def bindingLayout : Layout :=
  ⟨"@group(0) @binding(", ⟨") var ", ')', rfl⟩, ⟨": ", ':', rfl⟩, ⟨";" ++ "\n", ';', rfl⟩⟩

def localLayout : Layout :=
  ⟨"    var ", ⟨": ", ':', rfl⟩, ⟨" = ", ' ', rfl⟩, ⟨";" ++ "\n", ';', rfl⟩⟩

def resultStop : Stop :=
  ⟨" \x7b" ++ "\n", ' ', rfl⟩

/-- What a module says behind the struct of the surface inputs: places, names and types of bindings,
the type of the result, names, types and initializers of locals, and the expression. -/
structure Sections where
  bindings : List Row
  result : String
  locals : List Row
  expression : String
  deriving DecidableEq

/-- What a configuration alone determines: the struct, and the entry function up to its result. -/
def struct (config : Config) : String :=
  String.join (inputLines config)

def signature (config : Config) : String :=
  "fn " ++ config.functionName ++ "(" ++ ", ".intercalate (parameters config) ++ ") -> "

/-- What stands between bindings, if there are any, and the entry function. -/
def gap (bare : Bool) : List Char :=
  if bare then [] else ['\n']

/-- What stands behind the expression. -/
def closing : String :=
  ";" ++ "\n" ++ "\x7d" ++ "\n"

def read? (config : Config) (source : String) : Option Sections := do
  let text ← source.toList.dropPrefix? (struct config).toList
  let (bindings, text) := bindingLayout.rows text
  let text ← text.dropPrefix? (gap bindings.isEmpty)
  let text ← text.dropPrefix? (signature config).toList
  let (result, text) ← resultStop.field? text
  let (locals, text) := localLayout.rows text
  let text ← text.dropPrefix? "    return ".toList
  let expression ← text.dropSuffix? closing.toList
  return ⟨bindings, result, locals, String.ofList expression⟩

/-- The rows of the bindings of textures. -/
def bindingRows (textures : List TextureBinding) : List Row :=
  (bindings textures).mapIdx fun place binding => (toString place, binding.1, binding.2)

def localRow (declared : LocalVariable) : Row :=
  (declared.name, declared.type.wgsl, declared.initializer)

/-- The line of a binding has its place, its name and its type for fields. -/
theorem bindingLine_eq (place : Nat) (name type : String) :
    bindingLine place name type = bindingLayout.line (toString place, name, type) := by
  simp only [bindingLine, line, bindingLayout, Layout.line, String.append_assoc]

/-- The line of a local has its name, its type and its initializer for fields. -/
theorem localLine_eq (declared : LocalVariable) :
    localLine declared = localLayout.line (localRow declared) := by
  simp only [localLine, line, localLayout, localRow, Layout.line, String.append_assoc]

/-- The lines of all textures in turn are those of the rows. -/
theorem bindingRows_eq (textures : List TextureBinding) :
    (textures.mapIdx textureLines).flatten = (bindingRows textures).map bindingLayout.line := by
  rw [bindingLines_eq, bindingRows]
  apply List.ext_getElem
  · simp
  · simp [bindingLine_eq]

theorem bindingRows_isEmpty (textures : List TextureBinding) :
    (bindingRows textures).isEmpty = textures.isEmpty := by
  cases textures with
  | nil => rfl
  | cons texture rest => simp [bindingRows, bindings]

/-- The text of a module is made of its sections in their order. -/
theorem toList_source (config : Config) (locals : List LocalVariable)
    (textures : List TextureBinding) (expression : TypedTerm) :
    (source config locals textures expression).toList =
      (struct config).toList ++
        ((String.join ((bindingRows textures).map bindingLayout.line)).toList ++
          (gap textures.isEmpty ++ ((signature config).toList ++
            (expression.type.wgsl.toList ++ (resultStop.text.toList ++
              ((String.join ((locals.map localRow).map localLayout.line)).toList ++
                ("    return ".toList ++ (expression.text.toList ++ closing.toList)))))))) := by
  have bindings : (String.join (bindingLines textures)).toList =
      (String.join ((bindingRows textures).map bindingLayout.line)).toList ++ gap textures.isEmpty := by
    rw [bindingLines, gap, ← bindingRows_eq]
    split
    · rename_i empty
      rw [List.isEmpty_iff.mp empty]
      rfl
    · rw [String.join_append, String.toList_append]
      rfl
  have locals : locals.map localLine = (locals.map localRow).map localLayout.line := by
    rw [List.map_map]
    exact List.map_congr_left fun declared _ => localLine_eq declared
  rw [source, functionLines, String.join_append, String.join_append, String.join_cons,
    String.join_append, String.join_cons, String.join_cons, String.join_nil, locals]
  simp only [String.toList_append, bindings, struct, signature, resultStop, closing, line,
    String.append_empty, List.append_assoc]

/-- A word holds no character that is not of a word. -/
theorem not_mem_of_isWord {text : String} {character : Char} (word : IsWord text)
    (strange : Identifier.isWordCharacter character = false) : character ∉ text.toList := by
  intro member
  rw [word.characters character member] at strange
  cases strange

theorem not_mem_dimension (dimension : Dimension) : ';' ∉ dimension.wgsl.toList := by
  cases dimension with
  | plane | cube => decide

/-- The fields of bindings are numbers, words and types, none of which holds a stop. -/
theorem bindingRows_fit {textures : List TextureBinding} :
    ∀ row ∈ bindingRows textures, bindingLayout.Fits row := by
  intro row member
  obtain ⟨place, inside, rfl⟩ := List.mem_mapIdx.mp member
  obtain ⟨texture, _, found⟩ := List.mem_flatMap.mp (List.getElem_mem inside)
  generalize (bindings textures)[place] = binding at found ⊢
  have number : ')' ∉ (toString place).toList := not_mem_of_isWord (isWord_toString place) rfl
  simp only [List.mem_cons, List.not_mem_nil, or_false] at found
  rcases found with rfl | rfl
  · exact ⟨number, not_mem_of_isWord (Identifier.isWord_textureVariable _) rfl,
      not_mem_dimension texture.dimension⟩
  · have sampler : ';' ∉ "sampler".toList := by decide
    exact ⟨number, not_mem_of_isWord (Identifier.isWord_samplerVariable _) rfl, sampler⟩

/-- The local of a number has a word for its name, and its initializer is a literal. -/
theorem localRow_fits {supply : Supply Empty} {declared : LocalVariable}
    (holds : declared.Holds supply) : localLayout.Fits (localRow declared) := by
  obtain ⟨index, named⟩ := holds.name
  obtain ⟨value, _, written⟩ := holds.number
  refine ⟨?_, not_mem_of_isWord (ValueType.isWord_wgsl _) rfl, ?_⟩
  · rw [localRow, named]
    exact not_mem_of_isWord (Builder.isWord_localName _ _) rfl
  · unfold Single.literal? at written
    split at written
    · rw [localRow, ← Option.some.inj written]
      exact Numeral.not_mem_text (Binary.numeral_wellFormed value .literal) rfl
    · cases written

/-- A section ends where the next one begins, and the fields of every line can be told apart. -/
theorem read_source (config : Config) {locals : List LocalVariable} (textures : List TextureBinding)
    (expression : TypedTerm) (plain : ∀ declared ∈ locals, localLayout.Fits (localRow declared)) :
    read? config (source config locals textures expression) =
      some ⟨bindingRows textures, expression.type.wgsl, locals.map localRow, expression.text⟩ := by
  have localsFit : ∀ row ∈ locals.map localRow, localLayout.Fits row := List.forall_mem_map.mpr plain
  have result : resultStop.character ∉ expression.type.wgsl.toList :=
    not_mem_of_isWord (ValueType.isWord_wgsl _) rfl
  have bindingsEnd (rest : List Char) :
      bindingLayout.row? (gap textures.isEmpty ++ ((signature config).toList ++ rest)) = none := by
    apply Layout.row_none
    unfold gap
    split
    · simp only [signature, String.toList_append, List.append_assoc]
      rfl
    · rfl
  have localsEnd (rest : List Char) : localLayout.row? ("    return ".toList ++ rest) = none :=
    Layout.row_none rfl
  rw [read?, toList_source]
  simp only [dropPrefix_append, Option.bind_eq_bind, Option.bind_some,
    Layout.rows_append bindingRows_fit (bindingsEnd _), bindingRows_isEmpty,
    Stop.field_append result, Layout.rows_append localsFit (localsEnd _), dropSuffix_append,
    String.ofList_toList]
  rfl

/-! ### The bindings of a module -/

/-- A texture is bound at an even place, and its sampler behind it. -/
theorem bindings_getElem {textures : List TextureBinding} {index : Nat} {texture : TextureBinding}
    (found : textures[index]? = some texture) :
    (bindings textures)[2 * index]? =
        some (Identifier.textureVariable texture.name, texture.dimension.wgsl) ∧
      (bindings textures)[2 * index + 1]? =
        some (Identifier.samplerVariable texture.name, "sampler") := by
  induction textures generalizing index with
  | nil => cases found
  | cons first rest ih =>
      cases index with
      | zero =>
          cases found
          exact ⟨rfl, rfl⟩
      | succ index => exact ih found

/-- Every texture has two bindings. -/
theorem length_bindings (textures : List TextureBinding) :
    (bindings textures).length = 2 * textures.length := by
  simp [bindings, Nat.mul_comm]

/-- The places are numbered from zero on. -/
theorem bindingRows_places (textures : List TextureBinding) :
    (bindingRows textures).map Prod.fst = (List.range (2 * textures.length)).map toString := by
  apply List.ext_getElem
  · simp [bindingRows, length_bindings]
  · simp [bindingRows]

/-- The rows of a texture and its sampler stand at twice its index and behind. -/
theorem bindingRows_getElem {textures : List TextureBinding} {index : Nat} {texture : TextureBinding}
    (found : textures[index]? = some texture) :
    (bindingRows textures)[2 * index]? =
        some (toString (2 * index), Identifier.textureVariable texture.name, texture.dimension.wgsl) ∧
      (bindingRows textures)[2 * index + 1]? =
        some (toString (2 * index + 1), Identifier.samplerVariable texture.name, "sampler") := by
  obtain ⟨plain, sampler⟩ := bindings_getElem found
  simp [bindingRows, List.getElem?_mapIdx, plain, sampler]

/-- The variable of a texture and its dimension, which is all that a module says of the texture. -/
def textureEntry (texture : TextureBinding) : String × Dimension :=
  (Identifier.textureVariable texture.name, texture.dimension)

/-- The dimensions are written differently. -/
theorem dimension_injective : Function.Injective Dimension.wgsl := by
  intro first second
  cases first with
  | plane | cube =>
      cases second with
      | plane | cube => decide

/-- The bindings tell what a module says of its textures. -/
theorem textureEntries_eq {first second : List TextureBinding}
    (equal : bindings first = bindings second) :
    first.map textureEntry = second.map textureEntry := by
  induction first generalizing second with
  | nil =>
      cases second with
      | nil => rfl
      | cons texture rest => cases equal
  | cons texture rest ih =>
      cases second with
      | nil => cases equal
      | cons other others =>
          obtain ⟨heads, tails⟩ := List.cons.inj equal
          obtain ⟨name, dimension⟩ := Prod.mk.inj heads
          rw [List.map_cons, List.map_cons, ih (List.cons.inj tails).2, textureEntry, textureEntry, name,
            dimension_injective dimension]

/-- A row is a place and a binding. -/
theorem bindings_eq (textures : List TextureBinding) :
    (bindingRows textures).map Prod.snd = bindings textures := by
  apply List.ext_getElem
  · simp [bindingRows]
  · simp [bindingRows]

/-- What a module says of a local. -/
def localEntry (declared : LocalVariable) : String × ValueType × String :=
  (declared.name, declared.type, declared.initializer)

/-- The types are written differently. -/
theorem type_injective : Function.Injective ValueType.wgsl := by
  intro first second
  cases first with
  | f32 | vec2 | vec3 | vec4 | mat4 =>
      cases second with
      | f32 | vec2 | vec3 | vec4 | mat4 => decide

/-- The rows of locals tell what a module says of them. -/
theorem localEntries_eq {first second : List LocalVariable}
    (equal : first.map localRow = second.map localRow) :
    first.map localEntry = second.map localEntry := by
  have entry : Function.Injective fun entry : String × ValueType × String =>
      ((entry.1, entry.2.1.wgsl, entry.2.2) : Row) := by
    rintro ⟨name, type, initializer⟩ ⟨other, another, text⟩ same
    simp only [Prod.mk.injEq] at same ⊢
    exact ⟨same.1, type_injective same.2.1, same.2.2⟩
  apply entry.list_map
  rw [List.map_map, List.map_map]
  exact equal

end Module

/-- What the module of a fragment says. -/
def Fragment.sections (fragment : Fragment) : Module.Sections where
  bindings := Module.bindingRows fragment.textures
  result := fragment.expression.type.wgsl
  locals := fragment.locals.map Module.localRow
  expression := fragment.expression.text

section Builds

variable {Host Other : Type} (custom : Empty → NodeId → ValueType → Program Empty Host TypedTerm)
  {start last : Machine Empty Host}

/-- The sections of a module are read back from its text. -/
theorem build_read {fuel : Nat} {root : Node Empty} {output : ValueType} {fragment : Fragment}
    (ends : Action.build (generate custom fuel) root output start = (.done fragment, last)) :
    Module.read? start.builder.config fragment.source = some fragment.sections := by
  obtain ⟨after, generates, _, _, source⟩ := build_derives ends
  have config : after.config = start.builder.config := generates.extends.config
  rw [source, config, Module.read_source]
  · rfl
  · exact fun declared member => Module.localRow_fits (build_holds ends declared member)

/-- A module says all of its build but what its names hide: the expression and its type, the locals,
and the variables of the textures with their dimensions. Its bindings are numbered from zero on, and a
sampler follows its texture. -/
theorem source_determines_build {fuel : Nat} {root : Node Empty} {output : ValueType}
    {fragment : Fragment}
    (ends : Action.build (generate custom fuel) root output start = (.done fragment, last)) :
    Module.read? start.builder.config fragment.source = some fragment.sections ∧
      fragment.sections.bindings.map Prod.fst =
        (List.range (2 * fragment.textures.length)).map toString ∧
      (∀ index texture, fragment.textures[index]? = some texture →
        fragment.sections.bindings[2 * index]? =
            some (toString (2 * index), Identifier.textureVariable texture.name,
              texture.dimension.wgsl) ∧
          fragment.sections.bindings[2 * index + 1]? =
            some (toString (2 * index + 1), Identifier.samplerVariable texture.name, "sampler")) ∧
      ∀ (Other : Type) (another : Empty → NodeId → ValueType → Program Empty Other TypedTerm)
        (enough : Nat) (tree : Node Empty) (type : ValueType) (first final : Machine Empty Other)
        (second : Fragment),
        first.builder.config = start.builder.config →
        Action.build (generate another enough) tree type first = (.done second, final) →
        second.source = fragment.source →
          second.expression.text = fragment.expression.text ∧
            second.expression.type = fragment.expression.type ∧
            second.locals.map Module.localEntry = fragment.locals.map Module.localEntry ∧
            second.textures.map Module.textureEntry = fragment.textures.map Module.textureEntry := by
  have read := build_read custom ends
  refine ⟨read, Module.bindingRows_places _, fun _ _ => Module.bindingRows_getElem, ?_⟩
  intro Other another enough tree type first final second config also equal
  have reread := build_read another also
  rw [config, equal, read] at reread
  obtain ⟨bindings, result, locals, expression⟩ := Module.Sections.mk.inj (Option.some.inj reread.symm)
  refine ⟨expression, Module.type_injective result, Module.localEntries_eq locals, ?_⟩
  apply Module.textureEntries_eq
  rw [← Module.bindings_eq, ← Module.bindings_eq, bindings]

end Builds

/-- A sample with something added to it whose text is laid out like lines of a module. -/
def glowingTree (id : NodeId) (texture : String) : Node Empty :=
  .binary (id + 3) .add (.sample id texture)
    (.binary (id + 2) .multiply (.float (id + 1) (Single.ofWord 0x3f000000) false)
      (.expression (id + 4) "glow;\n    return dark" .vec4))

/-- Names that are alike hide from each other, and nodes their ids. -/
theorem glowing_sources_agree :
    ∃ fragment last second final,
      Action.build (generate nofun 3) (glowingTree 0 "sky-map") .vec4 ⟨.ofConfig .default, (), []⟩ =
        (.done fragment, last) ∧
      Action.build (generate nofun 3) (glowingTree 7 "sky_map") .vec4 ⟨.ofConfig .default, (), []⟩ =
        (.done second, final) ∧
      second.source = fragment.source ∧ second.textures ≠ fragment.textures ∧
      fragment.sections.bindings.map Prod.fst = ["0", "1"] ∧
      fragment.sections.locals = [("nf_float_0", "f32", "0.5")] ∧
      second.expression.text = fragment.expression.text ∧
      second.locals.map Module.localEntry = fragment.locals.map Module.localEntry ∧
      second.textures.map Module.textureEntry = fragment.textures.map Module.textureEntry := by
  obtain ⟨fragment, last, second, final, ends, also, equal, different, one, locals⟩ :
      ∃ fragment last second final,
        Action.build (generate nofun 3) (glowingTree 0 "sky-map") .vec4
            ⟨.ofConfig .default, (), []⟩ = (.done fragment, last) ∧
          Action.build (generate nofun 3) (glowingTree 7 "sky_map") .vec4
            ⟨.ofConfig .default, (), []⟩ = (.done second, final) ∧
          second.source = fragment.source ∧ second.textures ≠ fragment.textures ∧
          fragment.textures.length = 1 ∧
          fragment.sections.locals = [("nf_float_0", "f32", "0.5")] :=
    ⟨_, _, _, _, rfl, rfl, by decide +kernel, by decide, rfl, by decide +kernel⟩
  obtain ⟨_, places, _, determined⟩ := source_determines_build nofun ends
  obtain ⟨expression, _, declared, textures⟩ :=
    determined Unit nofun 3 _ _ _ _ _ rfl also equal
  rw [one] at places
  exact ⟨fragment, last, second, final, ends, also, equal, different, places, locals, expression,
    declared, textures⟩

end ShadeTree
