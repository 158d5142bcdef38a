import ShadeTree.Json.Render
import ShadeTree.Json.Scan

/-!
Texts in JSON documents.

A text is written with escapes and scanned back character by character. Whatever characters it has,
the scan gives them again and stops behind the closing quote.
-/

namespace ShadeTree.Json

/-! ### Escapes -/

/-- The two digits of a code below the space. -/
theorem hexQuad_hexDigit {code : Nat} (low : code < 32) :
    hexQuad? '0' '0' (hexDigit (code / 16)) (hexDigit (code % 16)) = some code := by
  have all : ∀ code < 32,
      hexQuad? '0' '0' (hexDigit (code / 16)) (hexDigit (code % 16)) = some code := by decide
  exact all code low

/-- A short escape is one character of the content. -/
theorem scanText_short {content : Content} {escaped character : Char} {rest : List Char}
    (short : shortEscape? escaped = some character) :
    scanText content ('\\' :: escaped :: rest) = scanText (content.push character) rest := by
  have other : escaped ≠ 'u' := by
    rintro rfl
    cases short
  conv =>
    lhs
    unfold scanText
  split
  case h_5 equal =>
    cases equal
    simp only [short]
  case h_7 apart _ equal =>
    cases equal
    exact absurd rfl (apart _ _ rfl)
  all_goals
    rename_i equal
    cases equal <;> exact absurd rfl other

/-- A visible character other than a quote and a backslash stands for itself. -/
theorem scanText_plain {content : Content} {character : Char} {rest : List Char}
    (quote : character ≠ '"') (slash : character ≠ '\\') (visible : ¬character < ' ') :
    scanText content (character :: rest) = scanText (content.push character) rest := by
  conv =>
    lhs
    unfold scanText
  split
  case h_7 equal =>
    cases equal
    exact if_neg visible
  all_goals
    rename_i equal
    cases equal <;> contradiction

/-- An escape of four hexadecimal digits is one unit of the content. -/
theorem scanText_code {content : Content} {first second third fourth : Char} {rest : List Char}
    {code : Nat} (digits : hexQuad? first second third fourth = some code) :
    scanText content ('\\' :: 'u' :: first :: second :: third :: fourth :: rest) =
      scanText (content.pushCode code) rest := by
  conv =>
    lhs
    unfold scanText
  simp only [digits]

/-- The escape of a character is scanned as the character. -/
theorem scanText_escape {content : Content} (whole : content.lead = none) (character : Char)
    (rest : List Char) :
    scanText content (escape character ++ rest) = scanText (content.push character) rest := by
  unfold escape
  split
  · exact scanText_short rfl
  · exact scanText_short rfl
  · exact scanText_short rfl
  · exact scanText_short rfl
  · exact scanText_short rfl
  · exact scanText_short rfl
  · exact scanText_short rfl
  · rename_i quote slash _ _ _ _ _
    split
    · rename_i hidden
      have low : character.toNat < 32 := hidden
      have pushed : content.pushCode character.toNat = content.push character := by
        have lead : Content.isLead character.toNat = false := by
          simp [Content.isLead]
          omega
        have trail : Content.isTrail character.toNat = false := by
          simp [Content.isTrail]
          omega
        rw [Content.pushCode, whole]
        simp [lead, trail]
      rw [← pushed]
      exact scanText_code (hexQuad_hexDigit low)
    · rename_i visible
      exact scanText_plain quote slash visible

/-- By induction on the text, whose characters are scanned one after the other. -/
theorem scanText_flatMap {content : Content} (whole : content.lead = none)
    (sound : content.sound = true) (text rest : List Char) :
    scanText content (text.flatMap escape ++ '"' :: rest) =
      .ok (some (String.ofList (content.characters.reverse ++ text)), rest) := by
  induction text generalizing content with
  | nil =>
      have closed : scanText content ('"' :: rest) = .ok (content.close, rest) := by
        simp only [scanText]
      rw [List.flatMap_nil, List.nil_append, closed, Content.close, whole, sound]
      simp
  | cons character text ih =>
      have pushed : (content.push character).sound = true := by simp [Content.push, sound, whole]
      rw [List.flatMap_cons, List.append_assoc, scanText_escape whole, ih rfl pushed]
      simp [Content.push]

/-- A written text is scanned as it was, up to its closing quote. -/
theorem scanText_content (content : String) (rest : List Char) :
    scanText .empty (content.toList.flatMap escape ++ '"' :: rest) = .ok (some content, rest) := by
  have whole : Content.empty.lead = none := rfl
  have scanned := scanText_flatMap whole rfl content.toList rest
  rwa [Content.empty, List.reverse_nil, List.nil_append, String.ofList_toList] at scanned

end ShadeTree.Json
