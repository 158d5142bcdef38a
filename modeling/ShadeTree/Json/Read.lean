import ShadeTree.Json.Scan
import ShadeTree.Number.Quantity
import ShadeTree.Number.Style
import ShadeTree.Text.Position
import ShadeTree.Text.Quoted

/-!
Reading data from a JSON tree, and the causes for which that fails.
-/

namespace ShadeTree

open Number

/-- What a reader came upon instead of what it expected. -/
inductive Found where
  | quantity (value : Quantity)
  | flag (value : Bool)
  | string (content : String)
  | null
  | sequence
  | map
  deriving DecidableEq

/-- Why a text holds no data of the type that is asked for. -/
inductive ReadError where
  | fault (kind : Fault)
  | wrongType (found : Found) (expected : String)
  /-- A number stands for a variant, and there is no variant of this number. -/
  | wrongIndex (index count : Nat)
  | missingField (name : String)
  | duplicateField (name : String)
  | unknownVariant (name : String) (choices : List String)
  | wrongLength (length : Nat) (expected : String)
  | unknownType (spelling : String)
  deriving DecidableEq

def Found.text : Found → String
  | .quantity (.natural value) => "integer `" ++ toString value ++ "`"
  | .quantity (.negative value) => "integer `-" ++ toString value ++ "`"
  | .quantity (.real value) => "floating point `" ++ value.text .quoted ++ "`"
  | .flag value => "boolean `" ++ toString value ++ "`"
  | .string content => "string " ++ Text.quote content
  | .null => "null"
  | .sequence => "sequence"
  | .map => "map"

def Fault.message : Fault → String
  | .malformed => "json syntax error"
  | .truncated => "json eof error"

def ReadError.wording : ReadError → String
  | .fault kind => kind.message
  | .wrongType found expected => "invalid type: " ++ found.text ++ ", expected " ++ expected
  | .wrongIndex index count =>
    "invalid value: integer `" ++ toString index ++ "`, expected variant index 0 <= i < " ++
      toString count
  | .missingField name => "missing field `" ++ name ++ "`"
  | .duplicateField name => "duplicate field `" ++ name ++ "`"
  | .unknownVariant name choices =>
    "unknown variant `" ++ name ++ "`, expected one of " ++
      ", ".intercalate (choices.map fun choice => "`" ++ choice ++ "`")
  | .wrongLength length expected =>
    "invalid length " ++ toString length ++ ", expected " ++ expected
  | .unknownType spelling => "unsupported value type: " ++ spelling

/-- Errors are told without a position, also where the wording ends in what looks like one. -/
def ReadError.message (error : ReadError) : String :=
  Text.dropPosition error.wording

/-- Readers stop at the first problem in the order of the text. -/
abbrev Reading := Except ReadError

def Fault.throw {α : Type} (kind : Fault) : Reading α :=
  .error (.fault kind)

namespace Json

/-- A value of another type than expected is looked at only as far as its type needs. -/
def mistyped {α : Type} (json : Json) (expected : String) : Reading α :=
  match json with
  | .null => .error (.wrongType .null expected)
  | .flag value => .error (.wrongType (.flag value) expected)
  | .number numeral =>
    match numeral.quantity? with
    | some value => .error (.wrongType (.quantity value) expected)
    | none => Fault.malformed.throw
  | .string (some content) => .error (.wrongType (.string content) expected)
  | .string none => Fault.malformed.throw
  | .array _ => .error (.wrongType .sequence expected)
  | .object _ => .error (.wrongType .map expected)
  | .broken problem => problem.whenRead.throw

def readString (json : Json) (expected : String) : Reading String :=
  match json with
  | .string (some content) => .ok content
  | _ => json.mistyped expected

def readText (json : Json) : Reading String :=
  json.readString "a string"

def readFlag (json : Json) : Reading Bool :=
  match json with
  | .flag value => .ok value
  | _ => json.mistyped "a boolean"

def readSingle (json : Json) : Reading Single :=
  match json with
  | .number numeral =>
    match numeral.quantity? with
    | some value => .ok value.single
    | none => Fault.malformed.throw
  | _ => json.mistyped "f32"

def readNullable {α : Type} (read : Json → Reading α) (json : Json) : Reading (Option α) :=
  match json with
  | .null => .ok none
  | _ => (read json).map some

mutual

/-- A value that nobody asks for is checked for its form only. -/
def skip : Json → Reading Unit
  | .broken problem => problem.whenSkipped.throw
  | .array items => skipItems items
  | .object members => skipMembers members
  | _ => .ok ()

def skipItems : Items → Reading Unit
  | .close => .ok ()
  | .stop problem => problem.whenSkipped.throw
  | .item value rest => do
    skip value
    skipItems rest

def skipMembers : Members → Reading Unit
  | .close => .ok ()
  | .stop problem => problem.whenSkipped.throw
  | .member _ value rest => do
    skip value
    skipMembers rest

end

mutual

/-- A value that is read as a whole has representable numbers and readable strings, and its arrays
and objects are nested at most `room` deep. -/
def check (room : Nat) : Json → Reading Unit
  | .broken problem => problem.whenRead.throw
  | .number numeral => if numeral.quantity?.isSome then .ok () else Fault.malformed.throw
  | .string content => if content.isSome then .ok () else Fault.malformed.throw
  | .array items => if room = 0 then Fault.malformed.throw else checkItems (room - 1) items
  | .object members => if room = 0 then Fault.malformed.throw else checkMembers (room - 1) members
  | _ => .ok ()

def checkItems (room : Nat) : Items → Reading Unit
  | .close => .ok ()
  | .stop problem => problem.whenRead.throw
  | .item value rest => do
    check room value
    checkItems room rest

def checkMembers (room : Nat) : Members → Reading Unit
  | .close => .ok ()
  | .stop problem => problem.whenRead.throw
  | .member key value rest => do
    if key.isNone then Fault.malformed.throw
    check room value
    checkMembers room rest

end

/-- How deep arrays and objects may be nested in a document. -/
def depthLimit : Nat := 127

/-- A document is read first, and then nothing but white space may follow. -/
def readDocument {α : Type} (read : Json → Reading α) (source : String) : Reading α := do
  let (json, rest) := scan source
  let value ← read json
  if (skipSpace (rest.getD [])).isEmpty then return value
  else Fault.malformed.throw

end Json

/-- The fields of an object are taken one after the other, in the order of the text. -/
def Members.foldFields {σ : Type} (take : σ → String → Json → Reading σ) (state : σ) :
    Members → Reading σ
  | .close => .ok state
  | .stop problem => problem.whenRead.throw
  | .member none _ _ => Fault.malformed.throw
  | .member (some key) value rest => do
    rest.foldFields take (← take state key value)

/-- Known fields are given once. -/
def takeField {σ α : Type} (current : Option α) (key : String) (read : Reading α)
    (set : Option α → σ) : Reading σ :=
  if current.isSome then .error (.duplicateField key)
  else read.map fun value => set (some value)

def requireField {α : Type} (field : Option α) (name : String) : Reading α :=
  match field with
  | some value => .ok value
  | none => .error (.missingField name)

/-- A record may be written as the array of its fields; `next` gives the field at hand, if there is
one, and the items behind it. -/
def Items.next {α : Type} (read : Json → Reading α) : Items → Reading (Option α × Items)
  | .close => .ok (none, .close)
  | .stop problem => problem.whenRead.throw
  | .item value rest => do return (some (← read value), rest)

/-- Behind its last field the array of a record ends. -/
def Items.finish : Items → Reading Unit
  | .close => .ok ()
  | .stop problem => problem.whenRead.throw
  | .item _ _ => Fault.malformed.throw

def requireItem {α : Type} (item : Option α) (index : Nat) (expected : String) : Reading α :=
  match item with
  | some value => .ok value
  | none => .error (.wrongLength index expected)

def Items.mapItems {α : Type} (read : Json → Reading α) : Items → Reading (List α)
  | .close => .ok []
  | .stop problem => problem.whenRead.throw
  | .item value rest => do
    let head ← read value
    return head :: (← rest.mapItems read)

end ShadeTree
