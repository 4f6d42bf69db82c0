import TileIndex.Json.Number
import TileIndex.Json.Text
import TileIndex.Settings
import TileIndex.Text.Quoted

/-!
# Settings from a document

Settings are read from a JSON document: an object with any of the three fields, each at most once,
or an array with their values in order. What is not given keeps its standard value. The document is
read from its first character to its last, and the first problem met is the one reported; only
settings read from a whole document are checked for use.
-/

namespace TileIndex.Settings

/-! ## Fields -/

/-- The fields of a document. -/
inductive Field
  | maxPending
  | replyTimeoutMs
  | queueStem
  deriving DecidableEq, Repr

namespace Field

/-- The fields in the order of an array. -/
def all : List Field := [maxPending, replyTimeoutMs, queueStem]

/-- The key of a field. -/
def key : Field → String
  | maxPending => "max_pending_write_updates"
  | replyTimeoutMs => "reply_timeout_ms"
  | queueStem => "queue_prefix"

/-- The field with a given key. -/
def ofKey? (k : String) : Option Field := all.find? (·.key = k)

/-- What a value of the field is called. -/
def expected : Field → String
  | maxPending => "usize"
  | replyTimeoutMs => "u64"
  | queueStem => "a string"

end Field

/-- A value given to a field. -/
inductive Assignment
  | maxPending (n : UInt64)
  | replyTimeoutMs (n : UInt64)
  | queueStem (s : String)
  deriving DecidableEq, Repr

/-- Give a field its value. -/
def assign (s : Settings) : Assignment → Settings
  | .maxPending n => { s with maxPending := n }
  | .replyTimeoutMs n => { s with replyTimeoutMs := n }
  | .queueStem t => { s with queueStem := t }

/-! ## Problems -/

/-- A value that stands where another kind of value was expected. -/
inductive Found
  | null
  | boolean (b : Bool)
  | integer (i : Int)
  | floating
  | text (s : String)
  | sequence
  | map
  deriving DecidableEq, Repr

/-- What a misplaced value is called. Floating-point numbers are not told apart. -/
def Found.describe : Found → String
  | null => "null"
  | boolean true => "boolean `true`"
  | boolean false => "boolean `false`"
  | integer i => "integer `" ++ String.ofList (Text.integer i) ++ "`"
  | floating => "floating point `*`"
  | text s => "string " ++ Text.Quoted.encode s
  | sequence => "sequence"
  | map => "map"

/-- The number that a misplaced number is. -/
def Found.ofNumber : Json.Number → Found
  | .unsigned n => integer n
  | .negative n => integer (-n)
  | .floating => floating

/-- Why a document cannot be read. -/
inductive Problem
  | unknownField (key : String)
  | duplicateField (field : Field)
  | wrongType (found : Found) (expected : String)
  /-- The integer `-n` for a field that holds none below zero. -/
  | belowZero (n : Nat) (expected : String)
  /-- The document is not JSON. -/
  | malformed
  deriving DecidableEq, Repr

/-- The text of a problem. -/
def Problem.message : Problem → String
  | unknownField k =>
    "unknown field `" ++ k ++ "`, expected one of " ++
      ", ".intercalate (Field.all.map fun f => "`" ++ f.key ++ "`")
  | duplicateField f => "duplicate field `" ++ f.key ++ "`"
  | wrongType found expected => "invalid type: " ++ found.describe ++ ", expected " ++ expected
  | belowZero n expected =>
    "invalid value: integer `" ++ String.ofList (Text.integer (-n)) ++ "`, expected " ++ expected
  | malformed => "syntax"

/-! ## Values -/

/-- What follows a word at the front of a document. -/
def afterWord (word : List Char) (found : Found) (l : List Char) : Except Problem Found :=
  if word.isPrefixOf l then .ok found else .error .malformed

/-- What the value at the front of a document is. Only a text or a number is read to its end. -/
def readFound : List Char → Except Problem Found
  | [] => .error .malformed
  | c :: rest =>
    if c = 'n' then afterWord ['u', 'l', 'l'] .null rest
    else if c = 't' then afterWord ['r', 'u', 'e'] (.boolean true) rest
    else if c = 'f' then afterWord ['a', 'l', 's', 'e'] (.boolean false) rest
    else if c = '[' then .ok .sequence
    else if c = '\x7b' then .ok .map
    else if c = '"' then
      match Json.readText rest with
      | some (s, _) => .ok (.text (String.ofList s))
      | none => .error .malformed
    else if c = '-' ∨ c.isDigit then
      match Json.readNumber (c :: rest) with
      | some (n, _) => .ok (.ofNumber n)
      | none => .error .malformed
    else .error .malformed

/-- Refuse the value at the front of a document. -/
def refuse {α : Type} (expected : String) (l : List Char) : Except Problem α :=
  match readFound l with
  | .ok found => .error (.wrongType found expected)
  | .error p => .error p

/-- Whether a number is at the front of a document. -/
def startsNumber (l : List Char) : Bool := l.head?.any fun c => c = '-' || c.isDigit

/-- An unsigned 64-bit number at the front of a document, and what follows it. -/
def readUInt64 (expected : String) (l : List Char) : Except Problem (UInt64 × List Char) :=
  if startsNumber l then
    match Json.readNumber l with
    | none => .error .malformed
    | some (.unsigned n, rest) => .ok (UInt64.ofNat n, rest)
    | some (.negative n, _) => .error (.belowZero n expected)
    | some (.floating, _) => .error (.wrongType .floating expected)
  else refuse expected l

/-- A text at the front of a document, and what follows it. -/
def readString (expected : String) (l : List Char) : Except Problem (String × List Char) :=
  match l with
  | '"' :: rest =>
    match Json.readText rest with
    | some (s, rest) => .ok (String.ofList s, rest)
    | none => .error .malformed
  | l => refuse expected l

/-- The value of a field at the front of a document, and what follows it. -/
def readValue (f : Field) (l : List Char) : Except Problem (Assignment × List Char) :=
  let l := Json.skipBlanks l
  match f with
  | .maxPending => (readUInt64 f.expected l).map fun (n, rest) => (.maxPending n, rest)
  | .replyTimeoutMs => (readUInt64 f.expected l).map fun (n, rest) => (.replyTimeoutMs n, rest)
  | .queueStem => (readString f.expected l).map fun (s, rest) => (.queueStem s, rest)

/-! ## Arrays and objects -/

/-- What comes next in an array or an object. -/
inductive Ahead
  /-- Its end, and what follows it. -/
  | close (rest : List Char)
  /-- An element, or an entry whose key has been opened. -/
  | item (l : List Char)
  deriving DecidableEq, Repr

/-- What comes next in an array: an element stands at its beginning or after a comma, and an element
    follows every comma. -/
def nextElement (first : Bool) (l : List Char) : Except Problem Ahead :=
  match Json.skipBlanks l with
  | ']' :: rest => .ok (.close rest)
  | l =>
    if first then .ok (.item l)
    else
      match l with
      | ',' :: rest =>
        if (Json.skipBlanks rest).head? = some ']' then .error .malformed else .ok (.item rest)
      | _ => .error .malformed

/-- The rest of an array, for the fields that have not been given. -/
def readElements (s : Settings) (first : Bool) : List Field → List Char →
    Except Problem (Settings × List Char)
  | [], l =>
    match nextElement first l with
    | .ok (.close rest) => .ok (s, rest)
    -- there is no field for another element
    | _ => .error .malformed
  | f :: fields, l =>
    match nextElement first l with
    | .error p => .error p
    | .ok (.close rest) => .ok (s, rest)
    | .ok (.item l) =>
      match readValue f l with
      | .error p => .error p
      | .ok (a, rest) => readElements (s.assign a) false fields rest

/-- The opening of a key. -/
def openKey : List Char → Except Problem Ahead
  | '"' :: rest => .ok (.item rest)
  | _ => .error .malformed

/-- What comes next in an object: a key stands at its beginning or after a comma. -/
def nextEntry (first : Bool) (l : List Char) : Except Problem Ahead :=
  match Json.skipBlanks l with
  | '\x7d' :: rest => .ok (.close rest)
  | l =>
    if first then openKey l
    else
      match l with
      | ',' :: rest => openKey (Json.skipBlanks rest)
      | _ => .error .malformed

/-- What follows the colon after a key. -/
def afterColon (l : List Char) : Except Problem (List Char) :=
  match Json.skipBlanks l with
  | ':' :: rest => .ok rest
  | _ => .error .malformed

/-- The field that an opened key names, and what follows the key. An unknown key is a problem at
    once, and so is one whose field has been given. -/
def readKey (left : List Field) (l : List Char) : Except Problem ({ f // f ∈ left } × List Char) :=
  match Json.readText l with
  | none => .error .malformed
  | some (k, rest) =>
    match Field.ofKey? (String.ofList k) with
    | none => .error (.unknownField (String.ofList k))
    | some f => if h : f ∈ left then .ok (⟨f, h⟩, rest) else .error (.duplicateField f)

/-- The rest of an object, for the fields that have not been given. -/
def readEntries (left : List Field) (s : Settings) (first : Bool) (l : List Char) :
    Except Problem (Settings × List Char) :=
  match nextEntry first l with
  | .error p => .error p
  | .ok (.close rest) => .ok (s, rest)
  | .ok (.item l) =>
    match readKey left l with
    | .error p => .error p
    | .ok (⟨f, _h⟩, l) =>
      match afterColon l with
      | .error p => .error p
      | .ok l =>
        match readValue f l with
        | .error p => .error p
        | .ok (a, rest) => readEntries (left.erase f) (s.assign a) false rest
termination_by left.length
decreasing_by
  -- the field just given is one of those left, and is given once
  have := List.length_pos_of_mem _h
  rw [List.length_erase_of_mem _h]
  omega

/-! ## Documents -/

/-- Settings that were read to the end of a document. -/
def atEnd : Except Problem (Settings × List Char) → Except Problem Settings
  | .error p => .error p
  | .ok (s, rest) => if Json.skipBlanks rest = [] then .ok s else .error .malformed

/-- The settings in a document, or its first problem. -/
def read (text : String) : Except Problem Settings :=
  match Json.skipBlanks text.toList with
  | '[' :: l => atEnd (readElements standard true Field.all l)
  | '\x7b' :: l => atEnd (readEntries Field.all standard true l)
  | l => refuse "struct ClientConfig" l

/-- The settings in a document, if they can be used. -/
def ofJson (text : String) : Except Failure Settings :=
  match read text with
  | .error p => .error (.argument ("invalid client configuration: " ++ p.message))
  | .ok s =>
    match s.validate with
    | .error e => .error e
    | .ok () => .ok s

end TileIndex.Settings
