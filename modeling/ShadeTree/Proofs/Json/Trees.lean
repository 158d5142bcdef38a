import ShadeTree.Json.Read
import ShadeTree.Proofs.Json.Numerals
import ShadeTree.Proofs.Json.Strings

/-!
Trees and their texts.

A tree without faults is scanned back from its text, whatever stands behind it.
-/

namespace ShadeTree

open Number

/-! ### Trees without faults -/

mutual

/-- A tree that the text of a document can hold from its beginning to its end. -/
def Json.Valid : Json → Prop
  | .null | .flag _ => True
  | .number numeral => numeral.Plain ∧ numeral.quantity?.isSome
  | .string content => content.isSome
  | .array items => items.Valid
  | .object members => members.Valid
  | .broken _ => False

def Items.Valid : Items → Prop
  | .close => True
  | .stop _ => False
  | .item value rest => value.Valid ∧ rest.Valid

def Members.Valid : Members → Prop
  | .close => True
  | .stop _ => False
  | .member key value rest => key.isSome ∧ value.Valid ∧ rest.Valid

end

namespace Json

/-! ### The first characters of texts -/

/-- A text at which the scan of a value does not stop for white space or the end of an array. -/
def Starts (text : List Char) : Prop :=
  ∃ first rest, text = first :: rest ∧ isSpace first = false ∧ first ≠ ']'

/-- A numeral begins with a minus or a digit. -/
theorem numeral_starts {numeral : Numeral} (plain : numeral.Plain) :
    ∃ first rest, numeral.toList = first :: rest ∧ (first = '-' ∨ first.isDigit) := by
  obtain ⟨negative, whole, fraction, exponent⟩ := numeral
  obtain ⟨⟨nonempty, wholeDigits, _, _⟩, _⟩ := plain
  cases negative with
  | true => exact ⟨'-', _, rfl, .inl rfl⟩
  | false =>
      obtain ⟨first, others, rfl⟩ := List.exists_cons_of_ne_nil nonempty
      exact ⟨first, _, rfl, .inr (wholeDigits first (List.mem_cons_self ..))⟩

theorem digit_not_space {character : Char} (digit : character.isDigit) :
    isSpace character = false := by
  have space : character ≠ ' ' := by rintro rfl; cases digit
  have line : character ≠ '\n' := by rintro rfl; cases digit
  have tab : character ≠ '\t' := by rintro rfl; cases digit
  have carriage : character ≠ '\r' := by rintro rfl; cases digit
  simp [isSpace, space, line, tab, carriage]

/-- The text of a valid tree begins with neither white space nor the end of an array. -/
theorem render_starts {json : Json} (valid : json.Valid) : Starts json.render := by
  cases json with
  | null => exact ⟨_, _, rfl, rfl, by decide⟩
  | flag value => cases value <;> exact ⟨_, _, rfl, rfl, by decide⟩
  | number numeral =>
      obtain ⟨first, rest, text, minus | digit⟩ := numeral_starts valid.1
      · exact ⟨first, rest, text, by rw [minus]; rfl, by rw [minus]; decide⟩
      · refine ⟨first, rest, text, digit_not_space digit, ?_⟩
        rintro rfl
        cases digit
  | string content =>
      cases content with
      | none => cases valid
      | some content => exact ⟨_, _, rfl, rfl, by decide⟩
  | array items | object members => exact ⟨_, _, rfl, rfl, by decide⟩
  | broken => exact valid.elim

theorem skipSpace_cons {first : Char} {rest : List Char} (visible : isSpace first = false) :
    skipSpace (first :: rest) = first :: rest := by
  simp [skipSpace, visible]

theorem Starts.length_pos {text : List Char} (starts : Starts text) : 0 < text.length := by
  obtain ⟨first, rest, rfl, _⟩ := starts
  exact Nat.succ_pos _

/-- A text begins as it did if more follows. -/
theorem Starts.append {text : List Char} (starts : Starts text) (others : List Char) :
    Starts (text ++ others) := by
  obtain ⟨first, rest, rfl, visible, opened⟩ := starts
  exact ⟨first, rest ++ others, rfl, visible, opened⟩

/-- The rest of an array begins with a comma or a bracket, so that no numeral goes on in it. -/
theorem renderItems_behind {items : Items} (valid : items.Valid) (rest : List Char) :
    Behind (renderItems false items ++ rest) ∧ 0 < (renderItems false items).length := by
  cases items with
  | close => exact ⟨behind_bracket _, by decide⟩
  | stop => exact valid.elim
  | item value others => exact ⟨behind_comma _, Nat.succ_pos _⟩

/-- The rest of an object begins with a comma or a brace, so that no numeral goes on in it. -/
theorem renderMembers_behind {members : Members} (valid : members.Valid) (rest : List Char) :
    Behind (renderMembers false members ++ rest) ∧ 0 < (renderMembers false members).length := by
  cases members with
  | close => exact ⟨behind_brace _, by decide⟩
  | stop => exact valid.elim
  | member key value others => exact ⟨behind_comma _, Nat.succ_pos _⟩

/-! ### Scanning -/

/-- A numeral is scanned up to its end. -/
theorem scanValue_number {numeral : Numeral} (plain : numeral.Plain) {rest : List Char}
    (behind : Behind rest) (fuel : Nat) :
    scanValue (fuel + 1) (numeral.toList ++ rest) = (.number numeral, some rest) := by
  have scanned := scanNumeral_append plain behind
  obtain ⟨first, others, text, start⟩ := numeral_starts plain
  have visible : isSpace first = false := by
    rcases start with rfl | digit
    · rfl
    · exact digit_not_space digit
  have opens : (first == '-' || first.isDigit) = true := by
    rcases start with rfl | digit <;> simp [*]
  rw [text, List.cons_append] at scanned ⊢
  unfold scanValue
  rw [skipSpace_cons visible]
  split
  case h_8 heq =>
    obtain ⟨rfl, rfl⟩ := List.cons.inj heq
    rw [if_pos opens, scanned]
    rfl
  all_goals
    rename_i heq
    cases heq <;> exact absurd opens (by decide)

/-- The comma in front of an item is passed over. -/
theorem scanItems_separated {text : List Char} (starts : Starts text) (first : Bool) (fuel : Nat) :
    scanItems (fuel + 1) first ((if first then [] else [',']) ++ text) = scanItem fuel text := by
  cases first with
  | false => rfl
  | true =>
      obtain ⟨character, rest, rfl, visible, opened⟩ := starts
      change scanItems (fuel + 1) true (character :: rest) = _
      conv =>
        lhs
        unfold scanItems
      rw [skipSpace_cons visible]
      split
      case h_2 heq => exact absurd (List.cons.inj heq).1 opened
      case h_3 heq => rw [if_pos rfl, ← heq]
      all_goals contradiction

/-- A comma in front of a member is skipped, except for the first one. -/
theorem scanMembers_separated (key : String) (text : List Char) (first : Bool) (fuel : Nat) :
    scanMembers (fuel + 1) first ((if first then [] else [',']) ++ (renderString key ++ text)) =
      scanMember fuel (renderString key ++ text) := by
  cases first <;> rfl

/-- An item and the items behind it are scanned in turn. -/
theorem scanItem_item {text others : List Char} {fuel : Nat} {value : Json} {items : Items}
    {rest : Rest} (head : scanValue fuel text = (value, some others))
    (tail : scanItems fuel false others = (items, rest)) :
    scanItem (fuel + 1) text = (.item value items, rest) := by
  simp only [scanItem, head, tail]

/-- A key, its value and the members behind it are scanned in turn. -/
theorem scanMember_member {text others : List Char} {fuel : Nat} {value : Json}
    {members : Members} {rest : Rest} (key : String)
    (head : scanValue fuel text = (value, some others))
    (tail : scanMembers fuel false others = (members, rest)) :
    scanMember (fuel + 1) (renderString key ++ ':' :: text) = (.member key value members, rest) := by
  have scanned := scanText_content key (':' :: text)
  have opened : renderString key ++ ':' :: text =
      '"' :: (key.toList.flatMap escape ++ '"' :: ':' :: text) := by
    simp [renderString]
  have colon : skipSpace (':' :: text) = ':' :: text := skipSpace_cons rfl
  rw [opened]
  simp only [scanMember, scanned, colon, head, tail]

mutual

/-- The text of a tree is scanned as the tree, if there is fuel for three calls at each character. -/
theorem scanValue_render {json : Json} (valid : json.Valid) {rest : List Char}
    (behind : Behind rest) (fuel : Nat) (enough : 3 * json.render.length ≤ fuel) :
    scanValue fuel (json.render ++ rest) = (json, some rest) := by
  have positive := (render_starts valid).length_pos
  obtain ⟨fuel, rfl⟩ : ∃ less, fuel = less + 1 := Nat.exists_eq_succ_of_ne_zero (by omega)
  match json with
  | .null => rfl
  | .flag true => rfl
  | .flag false => rfl
  | .number numeral => exact scanValue_number valid.1 behind fuel
  | .string (some content) =>
      have text : (string (some content)).render ++ rest =
          '"' :: (content.toList.flatMap escape ++ '"' :: rest) := by
        simp [render, renderString]
      rw [text]
      change scanLeaf .string (scanText .empty _) = _
      rw [scanText_content]
      rfl
  | .array items =>
      have fits : 3 * (renderItems true items).length + 2 ≤ fuel := by
        simp only [render, List.length_cons] at enough
        omega
      have scanned := scanItems_render valid true rest fuel fits
      change (let (items, rest) := scanItems fuel true (renderItems true items ++ rest)
        (array items, rest)) = _
      rw [scanned]
  | .object members =>
      have fits : 3 * (renderMembers true members).length + 2 ≤ fuel := by
        simp only [render, List.length_cons] at enough
        omega
      have scanned := scanMembers_render valid true rest fuel fits
      change (let (members, rest) := scanMembers fuel true (renderMembers true members ++ rest)
        (object members, rest)) = _
      rw [scanned]

/-- Items are scanned back with fuel in proportion to their text. -/
theorem scanItems_render {items : Items} (valid : items.Valid) (first : Bool) (rest : List Char)
    (fuel : Nat) (enough : 3 * (renderItems first items).length + 2 ≤ fuel) :
    scanItems fuel first (renderItems first items ++ rest) = (items, some rest) := by
  obtain ⟨fuel, rfl⟩ : ∃ less, fuel = less + 2 := ⟨fuel - 2, by omega⟩
  match items with
  | .close => cases first <;> rfl
  | .item value others =>
      obtain ⟨behind, positive⟩ := renderItems_behind valid.2 rest
      have starts := render_starts valid.1
      have valuePositive := starts.length_pos
      simp only [renderItems, List.length_append] at enough
      have head := scanValue_render valid.1 behind fuel (by omega)
      have tail := scanItems_render valid.2 false rest fuel (by omega)
      simp only [renderItems, List.append_assoc]
      rw [scanItems_separated (starts.append _), scanItem_item head tail]

/-- Members are scanned back with fuel in proportion to their text. -/
theorem scanMembers_render {members : Members} (valid : members.Valid) (first : Bool)
    (rest : List Char) (fuel : Nat)
    (enough : 3 * (renderMembers first members).length + 2 ≤ fuel) :
    scanMembers fuel first (renderMembers first members ++ rest) = (members, some rest) := by
  obtain ⟨fuel, rfl⟩ : ∃ less, fuel = less + 2 := ⟨fuel - 2, by omega⟩
  match members with
  | .close => cases first <;> rfl
  | .member (some key) value others =>
      obtain ⟨behind, positive⟩ := renderMembers_behind valid.2.2 rest
      have keyPositive : 0 < (renderString key).length := Nat.succ_pos _
      simp only [renderMembers, Option.elim_some, List.length_append, List.length_cons] at enough
      have head := scanValue_render valid.2.1 behind fuel (by omega)
      have tail := scanMembers_render valid.2.2 false rest fuel (by omega)
      simp only [renderMembers, Option.elim_some, List.append_assoc, List.cons_append]
      rw [scanMembers_separated, scanMember_member key head tail]

end

/-- A document that is written from a tree without faults holds the tree and nothing more. -/
theorem scan_text {json : Json} (valid : json.Valid) : scan json.text = (json, some []) := by
  have scanned := scanValue_render valid behind_nil (3 * json.render.length + 3) (by omega)
  rw [List.append_nil] at scanned
  unfold scan text
  rwa [String.toList_ofList]

end Json

/-! ### Depth -/

mutual

/-- How many arrays and objects lie in each other at the deepest place of a tree. -/
def Json.depth : Json → Nat
  | .array items => items.depth + 1
  | .object members => members.depth + 1
  | _ => 0

def Items.depth : Items → Nat
  | .item value rest => max value.depth rest.depth
  | _ => 0

def Members.depth : Members → Nat
  | .member _ value rest => max value.depth rest.depth
  | _ => 0

end

/-- An array is as deep as its items. -/
theorem Items.depth_ofList {values : List Json} {room : Nat} :
    (ofList values).depth ≤ room ↔ ∀ value ∈ values, value.depth ≤ room := by
  induction values with
  | nil => simp [ofList, depth]
  | cons value values ih => simp [ofList, depth, ih]

/-- Fields fit into a depth exactly if each of their values does. -/
theorem Members.depth_ofList {fields : List (String × Json)} {room : Nat} :
    (ofList fields).depth ≤ room ↔ ∀ field ∈ fields, field.2.depth ≤ room := by
  induction fields with
  | nil => simp [ofList, depth]
  | cons field fields ih => simp [ofList, depth, ih]

namespace Json

mutual

/-- A tree without faults passes the check of a value that is read as a whole. -/
theorem check_valid {json : Json} (valid : json.Valid) {room : Nat} (fits : json.depth ≤ room) :
    check room json = .ok () := by
  match json with
  | .null | .flag _ => rfl
  | .number numeral => exact if_pos valid.2
  | .string content => exact if_pos valid
  | .array items =>
      simp only [depth] at fits
      rw [check, if_neg (by omega), checkItems_valid valid (by omega)]
  | .object members =>
      simp only [depth] at fits
      rw [check, if_neg (by omega), checkMembers_valid valid (by omega)]

/-- Valid items pass the check of their depth. -/
theorem checkItems_valid {items : Items} (valid : items.Valid) {room : Nat}
    (fits : items.depth ≤ room) : checkItems room items = .ok () := by
  match items with
  | .close => rfl
  | .item value rest =>
      simp only [Items.depth] at fits
      rw [checkItems, check_valid valid.1 (by omega)]
      exact checkItems_valid valid.2 (by omega)

/-- Valid members pass the check of their depth. -/
theorem checkMembers_valid {members : Members} (valid : members.Valid) {room : Nat}
    (fits : members.depth ≤ room) : checkMembers room members = .ok () := by
  match members with
  | .close => rfl
  | .member (some key) value rest =>
      simp only [Members.depth] at fits
      rw [checkMembers, check_valid valid.2.1 (by omega)]
      exact checkMembers_valid valid.2.2 (by omega)

end

/-! ### Documents -/

/-- A document is read as its tree is. -/
theorem readDocument_text {α : Type} {json : Json} (valid : json.Valid) (read : Json → Reading α) :
    readDocument read json.text = read json := by
  unfold readDocument
  rw [scan_text valid]
  dsimp only
  cases read json <;> rfl

/-- An array is valid exactly if its values are. -/
theorem ofList_valid {values : List Json} :
    (ofList values).Valid ↔ ∀ value ∈ values, value.Valid := by
  change (Items.ofList values).Valid ↔ _
  induction values with
  | nil => simp [Items.ofList, Items.Valid]
  | cons value values ih => simp [Items.ofList, Items.Valid, ih]

/-- An object is valid exactly if its values are. -/
theorem ofFields_valid {fields : List (String × Json)} :
    (ofFields fields).Valid ↔ ∀ field ∈ fields, field.2.Valid := by
  change (Members.ofList fields).Valid ↔ _
  induction fields with
  | nil => simp [Members.ofList, Members.Valid]
  | cons field fields ih => simp [Members.ofList, Members.Valid, ih]

/-- An object is one level deeper than its values. -/
theorem ofFields_depth {fields : List (String × Json)} {room : Nat} :
    (ofFields fields).depth ≤ room + 1 ↔ ∀ field ∈ fields, field.2.depth ≤ room := by
  change (Members.ofList fields).depth + 1 ≤ room + 1 ↔ _
  rw [Nat.add_le_add_iff_right]
  exact Members.depth_ofList

/-- An array is one level deeper than its values. -/
theorem ofList_depth {values : List Json} {room : Nat} :
    (ofList values).depth ≤ room + 1 ↔ ∀ value ∈ values, value.depth ≤ room := by
  change (Items.ofList values).depth + 1 ≤ room + 1 ↔ _
  rw [Nat.add_le_add_iff_right]
  exact Items.depth_ofList

end Json

end ShadeTree
