import TransferDrill.Json.Token

/-!
# Documents and their tokens

A document is written as tokens by recursion and read by a machine that holds the containers
still open. Reading is strict: it takes exactly one document, and a repeated member name keeps
its place and takes the last value.
-/

namespace TransferDrill.Json

mutual

/-- The tokens of a document. -/
def tokens : Json → List Token
  | .null => [.null]
  | .bool b => [.bool b]
  | .int n => [.int n]
  | .float x => [.float x]
  | .string s => [.string s]
  | .array items => .openArray :: itemTokens items ++ [.closeArray]
  | .object members => .openObject :: memberTokens members ++ [.closeObject]

/-- The tokens of an array's items, with commas between them. -/
def itemTokens : List Json → List Token
  | [] => []
  | item :: rest => tokens item ++ laterItemTokens rest

/-- The tokens of the items after the first, each behind its comma. -/
def laterItemTokens : List Json → List Token
  | [] => []
  | item :: rest => .comma :: tokens item ++ laterItemTokens rest

/-- The tokens of an object's members, with commas between them. -/
def memberTokens : List (String × Json) → List Token
  | [] => []
  | (name, value) :: rest => .string name :: .colon :: tokens value ++ laterMemberTokens rest

/-- The tokens of the members after the first, each behind its comma. -/
def laterMemberTokens : List (String × Json) → List Token
  | [] => []
  | (name, value) :: rest =>
    .comma :: .string name :: .colon :: tokens value ++ laterMemberTokens rest

end

/-- The text of a document. -/
def written (document : Json) : List Char :=
  document.tokens.flatMap Token.written

/-- A container still open, around a value that is being read. -/
inductive Frame where
  | item (earlier : List Json)
  | member (earlier : Members) (name : String)

/-- What the reader expects next, and the containers still open. -/
inductive Reader where
  | value (outer : List Frame)
  | firstItem (outer : List Frame)
  | afterItem (items : List Json) (outer : List Frame)
  | firstName (outer : List Frame)
  | nextName (members : Members) (outer : List Frame)
  | colon (members : Members) (name : String) (outer : List Frame)
  | afterMember (members : Members) (outer : List Frame)
  | finished (document : Json)

namespace Reader

/-- Hand a finished value to the innermost open container; items are held latest first. -/
def deliver (value : Json) : List Frame → Reader
  | [] => .finished value
  | .item earlier :: outer => .afterItem (value :: earlier) outer
  | .member earlier name :: outer => .afterMember (earlier.put name value) outer

/-- Take the first token of a value. -/
def enter (outer : List Frame) : Token → Option Reader
  | .openObject => some (.firstName outer)
  | .openArray => some (.firstItem outer)
  | .null => some (deliver .null outer)
  | .bool b => some (deliver (.bool b) outer)
  | .int n => some (deliver (.int n) outer)
  | .float x => some (deliver (.float x) outer)
  | .string s => some (deliver (.string s) outer)
  | _ => none

/-- Take one token. -/
def step : Reader → Token → Option Reader
  | .value outer, token => enter outer token
  | .firstItem outer, .closeArray => some (deliver (.array []) outer)
  | .firstItem outer, token => enter (.item [] :: outer) token
  | .afterItem items outer, .comma => some (.value (.item items :: outer))
  | .afterItem items outer, .closeArray => some (deliver (.array items.reverse) outer)
  | .firstName outer, .closeObject => some (deliver (.object []) outer)
  | .firstName outer, .string name => some (.colon [] name outer)
  | .nextName members outer, .string name => some (.colon members name outer)
  | .colon members name outer, .colon => some (.value (.member members name :: outer))
  | .afterMember members outer, .comma => some (.nextName members outer)
  | .afterMember members outer, .closeObject => some (deliver (.object members) outer)
  | _, _ => none

/-- The document, when the tokens have ended. -/
def finish : Reader → Option Json
  | .finished document => some document
  | _ => none

end Reader

/-- The document that tokens spell. -/
def ofTokens? (tokens : List Token) : Option Json :=
  tokens.foldlM Reader.step (.value []) >>= Reader.finish

/-- The document that a text spells. -/
def read? (text : List Char) : Option Json :=
  scan text >>= ofTokens?

example : read? "[1, 2.5, \x7b\"a\": null, \"a\": \"\\u00e9\"\x7d]".toList =
    some (.array [.int 1, .float (.ofDecimal false 25 (-1)), .object [("a", .string "é")]]) := by
  decide +kernel

end TransferDrill.Json
