import TileIndex.Failure

/-!
# Addresses

A plate is addressed as `pf://key/name`, `pf://host/key/name` or `pf://host:port/key/name`, where
the key is the queue its service listens on. The written form of an address always has its host and
port.

## Main statements

- `Address.intercalate_pieces`: the pieces of a text, with the separators put back, are the text.
- `Address.not_mem_of_mem_pieces`: no piece holds a separator.
-/

namespace TileIndex

/-- Where a plate is found. -/
structure Address where
  host : String
  port : UInt16
  /-- The queue on which the service listens. -/
  key : String
  /-- The name of the plate. -/
  name : String
  deriving DecidableEq, Repr, Inhabited

namespace Address

/-- The host of an address that gives none. -/
def defaultHost : String := "localhost"

/-- The port of an address that gives none. -/
def defaultPort : UInt16 := 5672

/-- What is wrong with the text of an address. -/
inductive Flaw
  /-- It does not begin with the scheme. -/
  | scheme
  /-- It has neither two nor three segments. -/
  | segments
  /-- Its first segment of three has more than one colon. -/
  | authority
  /-- Its port is not a number in range. -/
  | port
  /-- Its host is empty. -/
  | host
  /-- Its key or its name is empty. -/
  | target
  deriving DecidableEq, Repr

/-- The text of a flaw in the text of an address. -/
def Flaw.message (url : String) : Flaw → String
  | scheme => "not a well-formed platefile URL: " ++ url
  | segments => "could not parse URL string: " ++ url
  | authority => "could not parse hostname and port from URL string: " ++ url
  | port => "could not parse port from URL string: " ++ url
  | host => "URL has an empty hostname: " ++ url
  | target => "URL is missing a routing key or index name: " ++ url

/-! ## Reading -/

/-- The pieces of a text between the occurrences of a separator. -/
def pieces (sep : Char) : List Char → List (List Char)
  | [] => [[]]
  | c :: cs =>
    if c = sep then [] :: pieces sep cs
    else
      -- a character that is no separator joins the piece that begins after it
      match pieces sep cs with
      | [] => [[c]]
      | p :: ps => (c :: p) :: ps

theorem pieces_ne_nil (sep : Char) (l : List Char) : pieces sep l ≠ [] := by
  cases l with
  | nil => simp [pieces]
  | cons c cs =>
    rw [pieces]
    split
    · simp
    · split <;> simp

/-- The pieces with the separators put back between them are the text. -/
theorem intercalate_pieces (sep : Char) (l : List Char) :
    [sep].intercalate (pieces sep l) = l := by
  induction l with
  | nil => simp [pieces]
  | cons c cs ih =>
    rw [pieces]
    split
    -- a separator: it stands between an empty piece and the rest
    · rename_i h
      cases hp : pieces sep cs with
      | nil => exact absurd hp (pieces_ne_nil sep cs)
      | cons p ps => rw [← ih, hp]; simp [List.intercalate, h]
    -- any other character: it opens the first piece
    · cases hp : pieces sep cs with
      | nil => exact absurd hp (pieces_ne_nil sep cs)
      | cons p ps =>
        rw [← ih, hp]
        cases ps <;> simp [List.intercalate]

/-- Separators are between the pieces and not in them. -/
theorem not_mem_of_mem_pieces {sep : Char} {l p : List Char} (h : p ∈ pieces sep l) : sep ∉ p := by
  induction l generalizing p with
  | nil =>
    rw [pieces, List.mem_singleton] at h
    simp [h]
  | cons c cs ih =>
    rw [pieces] at h
    split at h
    · rcases List.mem_cons.1 h with h | h
      · simp [h]
      · exact ih h
    · -- the character opens the first piece, and the other pieces are as before
      rename_i hc
      cases hp : pieces sep cs with
      | nil => exact absurd hp (pieces_ne_nil sep cs)
      | cons q qs =>
        rw [hp] at h ih
        rcases List.mem_cons.1 h with h | h
        · rw [h, List.mem_cons, not_or]
          exact ⟨Ne.symm hc, ih (List.mem_cons_self ..)⟩
        · exact ih (List.mem_cons_of_mem _ h)

/-- What follows the scheme. -/
def afterScheme? : List Char → Option (List Char)
  | 'p' :: 'f' :: ':' :: '/' :: '/' :: rest => some rest
  | _ => none

/-- A port: digits, perhaps after a plus sign, for a number below 2^16. -/
def port? (l : List Char) : Option UInt16 :=
  let digits := match l with
    | '+' :: rest => rest
    | l => l
  match Text.decimal? digits with
  | some n => if n < 65536 then some (UInt16.ofNat n) else none
  | none => none

/-- The host and the port of the first segment of three. -/
def readAuthority (l : List Char) : Except Flaw (String × UInt16) :=
  match pieces ':' l with
  | [host] => nonEmpty host defaultPort
  | [host, port] =>
    match port? port with
    | some p => nonEmpty host p
    | none => .error .port
  | _ => .error .authority
where
  /-- Refuse an empty host. -/
  nonEmpty (host : List Char) (port : UInt16) : Except Flaw (String × UInt16) :=
    if host = [] then .error .host else .ok (String.ofList host, port)

/-- The address with a given host and port, unless its key or its name is empty. -/
def target (host : String) (port : UInt16) (key name : List Char) : Except Flaw Address :=
  if key = [] ∨ name = [] then .error .target
  else .ok ⟨host, port, String.ofList key, String.ofList name⟩

/-- The address that a text writes, or its first flaw. -/
def read (url : String) : Except Flaw Address :=
  match afterScheme? url.toList with
  | none => .error .scheme
  | some rest =>
    match pieces '/' rest with
    -- a host cannot be told from a key by itself, so two segments are key and name
    | [key, name] => target defaultHost defaultPort key name
    | [authority, key, name] =>
      match readAuthority authority with
      | .ok (host, port) => target host port key name
      | .error f => .error f
    | _ => .error .segments

/-- The address that a text writes; any other text is an unusable argument. -/
def parse (url : String) : Except Failure Address :=
  (read url).mapError fun f => .argument (f.message url)

/-! ## Writing -/

/-- The full form of an address. -/
def display (a : Address) : String :=
  "pf://" ++ a.host ++ ":" ++ String.ofList (Text.decimal a.port.toNat) ++ "/" ++ a.key ++ "/" ++
    a.name

end Address

end TileIndex
