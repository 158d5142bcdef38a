import Mathlib.Data.List.Basic
import ShadeTree.Listing

/-!
The listing of a source in a report.

A listing can be read with nothing but its form: up to the first line that is a delimiter, each line is a
number, a bar and a line of the source. A line of the source may hold bars and delimiters, but what stands
in front of it keeps it from being one, and the first bar is never its own.
-/

namespace ShadeTree

/-! ### Lines -/

namespace Text

variable {line rest text : List Char} {lines : List (List Char)}

/-- The lines of a text. A line feed ends a line, and a carriage return right in front of it belongs to
the end. What stands behind the last end is a line if it is not empty. -/
inductive Lines : List Char → List (List Char) → Prop
  | empty : Lines [] []
  | last {line : List Char} (filled : line ≠ []) (free : '\n' ∉ line) : Lines line [line]
  | feed {line rest : List Char} {lines : List (List Char)} (free : '\n' ∉ line)
    (bare : line.getLast? ≠ some '\r') (behind : Lines rest lines) :
    Lines (line ++ '\n' :: rest) (line :: lines)
  | returned {line rest : List Char} {lines : List (List Char)} (free : '\n' ∉ line)
    (behind : Lines rest lines) : Lines (line ++ '\r' :: '\n' :: rest) (line :: lines)

/-- A character that does not end a line belongs to the first line of the rest. -/
theorem splitLines_cons {character : Char} (noFeed : character ≠ '\n')
    (bare : character = '\r' → rest.head? ≠ some '\n') (split : splitLines rest = line :: lines) :
    splitLines (character :: rest) = (character :: line) :: lines := by
  rw [splitLines, split]
  · exact noFeed
  · rintro others rfl rfl
    exact bare rfl rfl

theorem splitLines_single {character : Char} (noFeed : character ≠ '\n') :
    splitLines [character] = [[character]] := by
  rw [splitLines, splitLines]
  · exact noFeed
  · rintro _ _ ⟨⟩

/-- What begins with a line does not begin with a feed. -/
theorem head_append_ne_feed (free : '\n' ∉ line) (rest : List Char)
    (behind : line = [] → rest.head? ≠ some '\n') : (line ++ rest).head? ≠ some '\n' := by
  cases line with
  | nil => exact behind rfl
  | cons first others =>
      intro same
      exact free (List.mem_cons.mpr (.inl (Option.some.inj same).symm))

/-- A feed ends a line, unless a return stands in front of it. -/
theorem splitLines_feed (free : '\n' ∉ line) (bare : line.getLast? ≠ some '\r') (rest : List Char) :
    splitLines (line ++ '\n' :: rest) = line :: splitLines rest := by
  induction line with
  | nil => rfl
  | cons character others ih =>
      obtain ⟨noFeed, later⟩ := not_or.mp (mt List.mem_cons.mpr free)
      have plain : others.getLast? ≠ some '\r' := by
        cases others with
        | nil => simp
        | cons => simpa using bare
      refine splitLines_cons (Ne.symm noFeed) ?_ (ih later plain)
      rintro rfl
      exact head_append_ne_feed later _ (by rintro rfl; exact absurd rfl bare)

/-- A return and a feed end a line together. -/
theorem splitLines_return (free : '\n' ∉ line) (rest : List Char) :
    splitLines (line ++ '\r' :: '\n' :: rest) = line :: splitLines rest := by
  induction line with
  | nil => rfl
  | cons character others ih =>
      obtain ⟨noFeed, later⟩ := not_or.mp (mt List.mem_cons.mpr free)
      exact splitLines_cons (Ne.symm noFeed)
        (fun _ => head_append_ne_feed later _ fun _ => by simp) (ih later)

/-- The last line needs no end. -/
theorem splitLines_last (filled : line ≠ []) (free : '\n' ∉ line) : splitLines line = [line] := by
  induction line with
  | nil => exact absurd rfl filled
  | cons character others ih =>
      obtain ⟨noFeed, later⟩ := not_or.mp (mt List.mem_cons.mpr free)
      have bare : others.head? ≠ some '\n' := by
        simpa using head_append_ne_feed later [] fun _ => by simp
      cases others with
      | nil => exact splitLines_single (Ne.symm noFeed)
      | cons second others =>
          exact splitLines_cons (Ne.symm noFeed) (fun _ => bare) (ih (List.cons_ne_nil _ _) later)

/-- A character in front of a text goes into its first line, unless it ends one. -/
theorem Lines.cons {character : Char} (noFeed : character ≠ '\n')
    (bare : character = '\r' → rest.head? ≠ some '\n') (behind : Lines rest (line :: lines)) :
    Lines (character :: rest) ((character :: line) :: lines) := by
  have free (inside : '\n' ∉ line) : '\n' ∉ character :: line := by
    simp [noFeed.symm, inside]
  cases behind with
  | last _ inside => exact .last (List.cons_ne_nil _ _) (free inside)
  | returned inside behind => exact .returned (free inside) behind
  | feed inside plain behind =>
      refine .feed (free inside) ?_ behind
      cases line with
      | nil => simpa using fun same => bare same rfl
      | cons => simpa using plain

/-- A text is laid out as the lines that it is split into. -/
theorem lines_splitLines (text : List Char) : Lines text (splitLines text) := by
  fun_induction splitLines text with
  | case1 => exact .empty
  | case2 rest ih => exact Lines.feed List.not_mem_nil (by simp) ih
  | case3 rest ih => exact Lines.returned List.not_mem_nil ih
  | case4 character rest noFeed bare nothing ih =>
      rw [nothing] at ih
      cases ih
      exact .last (List.cons_ne_nil _ _) (by simpa using Ne.symm noFeed)
  | case5 character rest noFeed bare line others split ih =>
      rw [split] at ih
      refine ih.cons noFeed fun same opens => ?_
      obtain ⟨others, rfl⟩ := List.head?_eq_some_iff.mp opens
      exact bare others same rfl

/-- There is one way to lay out a text as lines. -/
theorem lines_iff : Lines text lines ↔ lines = splitLines text := by
  constructor
  · intro split
    induction split with
    | empty => rfl
    | last filled free => exact (splitLines_last filled free).symm
    | feed free bare _ ih => rw [splitLines_feed free bare, ih]
    | returned free _ ih => rw [splitLines_return free, ih]
  · rintro rfl
    exact lines_splitLines text

/-- No line holds a feed. -/
theorem Lines.free (split : Lines text lines) : ∀ line ∈ lines, '\n' ∉ line := by
  induction split with
  | empty => simp
  | last _ free => simpa using free
  | feed free _ _ ih | returned free _ ih => exact List.forall_mem_cons.mpr ⟨free, ih⟩

/-- A line in front of a feed is split off. -/
theorem splitOn_append (free : '\n' ∉ line) (rest : List Char) :
    (line ++ '\n' :: rest).splitOn '\n' = line :: rest.splitOn '\n' := by
  have single : line.splitOn '\n' = [line] :=
    List.splitOn_eq_singleton_of_beq_eq_false fun character member =>
      beq_false_of_ne (by rintro rfl; exact free member)
  have cut : (line ++ '\n' :: rest).splitOn '\n' = line.splitOn '\n' ++ rest.splitOn '\n' :=
    List.splitOnP_append_cons line rest (beq_self_eq_true '\n')
  rw [cut, single, List.singleton_append]

/-- Rows that end in a feed each are split off in their order. -/
theorem splitOn_lines {rows : List (List Char)} (free : ∀ row ∈ rows, '\n' ∉ row) (rest : List Char) :
    (rows.flatMap (· ++ ['\n']) ++ rest).splitOn '\n' = rows ++ rest.splitOn '\n' := by
  induction rows with
  | nil => rfl
  | cons row others ih =>
      obtain ⟨first, later⟩ := List.forall_mem_cons.mp free
      rw [List.flatMap_cons, List.append_assoc, List.append_assoc, List.singleton_append,
        splitOn_append first, ih later, List.cons_append]

end Text

/-! ### Entries -/

namespace Listing

/-- What stands in front of the first bar, and what stands behind it. -/
def cut? : List Char → Option (List Char × List Char)
  | [] => none
  | ' ' :: '|' :: ' ' :: rest => some ([], rest)
  | character :: rest => (cut? rest).map fun (front, back) => (character :: front, back)

/-- The number of an entry, without the space in front of it, and its line. -/
def columns? (entry : List Char) : Option (String × String) :=
  (cut? entry).map fun (number, line) =>
    (String.ofList (number.dropWhile (· == ' ')), String.ofList line)

/-- What a report says in front of its listing. The problem may look like anything. -/
def preamble (problem : String) : String :=
  "WGSL validation failed:\n  " ++ problem ++ "\n\nGenerated WGSL:\n"

/-- The lines between the delimiters of a report. The second delimiter is the first line that looks
like one, and the report ends with it. -/
def between? (problem report : String) : Option (List (List Char)) := do
  let listing ← report.toList.dropPrefix? (preamble problem ++ delimiter).toList
  let isEntry := fun line => line != "---".toList
  let lines := listing.splitOn '\n'
  if lines.dropWhile isEntry = ["---".toList, []] then some (lines.takeWhile isEntry) else none

def read? (problem report : String) : Option (List (String × String)) :=
  (between? problem report).bind fun entries => entries.mapM columns?

/-! ### Reports -/

/-- A row is cut at its first bar. -/
theorem cut_append {front : List Char} (free : '|' ∉ front) (line : List Char) :
    cut? (front ++ ' ' :: '|' :: ' ' :: line) = some (front, line) := by
  induction front with
  | nil => rfl
  | cons character rest ih =>
      obtain ⟨_, later⟩ := not_or.mp (mt List.mem_cons.mpr free)
      rw [List.cons_append, cut?, ih later]
      · rfl
      · rintro others rfl opens
        cases rest with
        | nil => cases opens
        | cons second rest =>
            exact later (List.mem_cons.mpr (.inl (List.cons.inj opens).1.symm))

theorem toList_pushn (count : Nat) : ("".pushn ' ' count).toList = List.replicate count ' ' := by
  induction count with
  | zero => rfl
  | succ count ih =>
      rw [List.replicate_succ', ← ih]
      exact String.toList_push ' '

/-- A number is padded with blanks on its left. -/
theorem toList_lineNumber (number : Nat) : ∃ count,
    (lineNumber number).toList = List.replicate count ' ' ++ Nat.toDigits 10 number := by
  refine ⟨4 - (toString number).length, ?_⟩
  rw [lineNumber, String.toList_append, toList_pushn, Nat.toString_eq_ofList_toDigits,
    String.toList_ofList]

/-- A padded number has no characters but digits and blanks. -/
theorem not_mem_lineNumber (number : Nat) {character : Char} (noDigit : character.isDigit = false)
    (noSpace : character ≠ ' ') : character ∉ (lineNumber number).toList := by
  obtain ⟨count, spelled⟩ := toList_lineNumber number
  rw [spelled, List.mem_append]
  rintro (space | digit)
  · exact noSpace (List.eq_of_mem_replicate space)
  · rw [Nat.isDigit_of_mem_toDigits (by decide) (by decide) digit] at noDigit
    cases noDigit

/-- The digits are what is left of a padded number without its blanks. -/
theorem lineNumber_dropWhile (number : Nat) :
    (lineNumber number).toList.dropWhile (· == ' ') = Nat.toDigits 10 number := by
  obtain ⟨count, spelled⟩ := toList_lineNumber number
  have some : Nat.toDigits 10 number ≠ [] := Nat.toDigits_ne_nil
  obtain ⟨digit, rest, digits⟩ := List.exists_cons_of_ne_nil some
  have member : digit ∈ Nat.toDigits 10 number := digits ▸ List.mem_cons_self ..
  have isDigit : digit.isDigit := Nat.isDigit_of_mem_toDigits (by decide) (by decide) member
  have spaces : ∀ space ∈ List.replicate count ' ', (space == ' ') = true := by
    intro space member
    rw [List.eq_of_mem_replicate member]
    rfl
  rw [spelled, List.dropWhile_append_of_pos spaces, digits, List.dropWhile_cons_of_neg]
  rw [beq_iff_eq]
  rintro rfl
  cases isDigit

/-- A line of the listing, without its end. -/
def row (index : Nat) (line : List Char) : List Char :=
  (lineNumber (index + 1)).toList ++ ' ' :: '|' :: ' ' :: line

/-- The number and the line are read back off a row. -/
theorem columns_row (index : Nat) (line : List Char) :
    columns? (row index line) = some (toString (index + 1), String.ofList line) := by
  rw [columns?, row, cut_append (not_mem_lineNumber _ rfl (by decide)), Option.map_some]
  dsimp only
  rw [lineNumber_dropWhile, Nat.toString_eq_ofList_toDigits]

theorem toList_numberedLine (index : Nat) (line : List Char) :
    (numberedLine index (String.ofList line)).toList = row index line ++ ['\n'] := by
  simp only [numberedLine, row, String.toList_append, String.toList_ofList, List.append_assoc]
  rfl

/-- A listing is made of one row for every line, each with a feed at its end. -/
theorem toList_numbered (source : String) :
    (numbered source).toList =
      ((Text.splitLines source.toList).mapIdx row).flatMap (· ++ ['\n']) := by
  rw [numbered, String.toList_join, Text.lines, List.flatMap_def, List.flatMap_def]
  congr 1
  apply List.ext_getElem
  · simp
  · simp [toList_numberedLine]

/-- A row ends with its line, and so it holds a bar but no line feed. -/
theorem mem_rows {lines : List (List Char)} (free : ∀ line ∈ lines, '\n' ∉ line) :
    ∀ entry ∈ lines.mapIdx row, '\n' ∉ entry ∧ '|' ∈ entry := by
  intro entry member
  obtain ⟨index, inside, rfl⟩ := List.mem_mapIdx.mp member
  have line := free _ (List.getElem_mem inside)
  have number : '\n' ∉ (lineNumber (index + 1)).toList := not_mem_lineNumber _ rfl (by decide)
  simp [row, line, number]

/-- Elements that are each read back are all read back. -/
theorem mapM_map_eq_some {α β γ : Type} {read : β → Option γ} {write : α → β} {view : α → γ}
    (each : ∀ element, read (write element) = some (view element)) (list : List α) :
    (list.map write).mapM read = some (list.map view) := by
  have composed : read ∘ write = fun element => pure (view element) := funext each
  rw [List.mapM_map, composed, List.mapM_pure]
  rfl

/-- A report is a problem, a listing and the delimiter behind each. -/
theorem report_eq (problem source : String) :
    report problem source = preamble problem ++ delimiter ++ (numbered source ++ delimiter) :=
  String.append_assoc

/-- No row is a delimiter, whatever its line is. -/
theorem between_report (problem source : String) :
    between? problem (report problem source) = some ((Text.splitLines source.toList).mapIdx row) := by
  have rows := mem_rows (Text.lines_splitLines source.toList).free
  have opening := List.dropPrefix?_eq_some_iff.mpr
    ⟨_, (rfl : _ = (preamble problem ++ delimiter).toList ++ (numbered source ++ delimiter).toList),
      beq_self_eq_true _⟩
  rw [between?, report_eq, String.toList_append, opening, String.toList_append, toList_numbered]
  generalize (Text.splitLines source.toList).mapIdx row = entries at rows
  have entry : ∀ entry ∈ entries, (entry != "---".toList) = true := by
    intro entry member
    rw [bne_iff_ne]
    rintro rfl
    exact absurd (rows _ member).2 (by decide)
  have split : (entries.flatMap (· ++ ['\n']) ++ delimiter.toList).splitOn '\n' =
      entries ++ ["---".toList, []] := by
    rw [Text.splitOn_lines fun row member => (rows row member).1]
    rfl
  have closing : ["---".toList, []].dropWhile (· != "---".toList) = ["---".toList, []] := rfl
  have ended : ["---".toList, []].takeWhile (· != "---".toList) = [] := rfl
  simp only [Option.bind_eq_bind, Option.bind_some, split, List.dropWhile_append_of_pos entry,
    List.takeWhile_append_of_pos entry, closing, ended, if_true, List.append_nil]

/-- There is one way to split a source into lines, and the listing of its report gives these lines back,
with numbers that count from one on. -/
theorem report_lists_source (problem source : String) :
    ∃ lines : List (List Char), (∀ others, Text.Lines source.toList others ↔ others = lines) ∧
      read? problem (report problem source) =
        some (lines.mapIdx fun index line => (toString (index + 1), String.ofList line)) := by
  refine ⟨Text.splitLines source.toList, fun _ => Text.lines_iff, ?_⟩
  rw [read?, between_report, Option.bind_some, List.mapIdx_eq_zipIdx_map, List.mapIdx_eq_zipIdx_map]
  have each (placed : List Char × Nat) : columns? (row placed.2 placed.1) =
      some (toString (placed.2 + 1), String.ofList placed.1) := columns_row placed.2 placed.1
  exact mapM_map_eq_some each _

end Listing

end ShadeTree
