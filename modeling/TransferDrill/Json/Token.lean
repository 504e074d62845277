import TransferDrill.Json.Basic
import TransferDrill.Text.Escaped
import TransferDrill.Numeric.Numeral
import TransferDrill.Numeric.Shortest

/-!
# Tokens of a document's text

Writing a token is fixed to the character; the scanner takes one character at a time and allows
blanks between tokens. A word, that is a number or a named constant, ends where a character that
belongs to no word stands.
-/

namespace TransferDrill.Json

/-- The tokens of a document. -/
inductive Token where
  | openObject
  | closeObject
  | openArray
  | closeArray
  | colon
  | comma
  | null
  | bool (value : Bool)
  | int (value : Int)
  | float (value : Binary64)
  | string (value : String)
deriving DecidableEq, Repr

namespace Token

/-- The text of a token; a comma and a colon are followed by a space. -/
def written : Token → List Char
  | .openObject => ['\x7b']
  | .closeObject => ['\x7d']
  | .openArray => ['[']
  | .closeArray => [']']
  | .colon => [':', ' ']
  | .comma => [',', ' ']
  | .null => "null".toList
  | .bool true => "true".toList
  | .bool false => "false".toList
  | .int n => Numeral.ofInt n
  | .float x => x.text "Infinity" "NaN"
  | .string s => '"' :: Text.Escaped.encode s.toList ++ ['"']

/-- The token that a word stands for. -/
def ofWord? (word : List Char) : Option Token :=
  match String.ofList word with
  | "null" => some .null
  | "true" => some (.bool true)
  | "false" => some (.bool false)
  | "NaN" => some (.float .notANumber)
  | "Infinity" => some (.float (.infinity false))
  | "-Infinity" => some (.float (.infinity true))
  | _ => (Numeral.document? word).map fun
    | .inl n => .int n
    | .inr x => .float x

/-- The token of a punctuation mark. -/
def ofMark? (c : Char) : Option Token :=
  if c = '\x7b' then some .openObject
  else if c = '\x7d' then some .closeObject
  else if c = '[' then some .openArray
  else if c = ']' then some .closeArray
  else if c = ':' then some .colon
  else if c = ',' then some .comma
  else none

/-- Whether a character belongs to a word. -/
def isWordChar (c : Char) : Bool :=
  c.isAlphanum || c == '+' || c == '-' || c == '.'

/-- Whether a character may stand between tokens. -/
def isGap (c : Char) : Bool :=
  c == ' ' || c == '\n' || c == '\r' || c == '\t'

end Token

/-- Where the scanner stands; the characters of an unfinished token are held latest first. -/
inductive Mode where
  | between
  | word (seen : List Char)
  | string (seen : List Char)
  | escape (seen : List Char)
deriving DecidableEq, Repr

/-- The scanner: its mode and the tokens found, latest first. -/
structure Scanner where
  mode : Mode
  tokens : List Token
deriving DecidableEq, Repr

namespace Scanner

/-- Take a character that continues no token. -/
def enter (tokens : List Token) (c : Char) : Option Scanner :=
  if Token.isGap c then some ⟨.between, tokens⟩
  else if c = '"' then some ⟨.string [], tokens⟩
  else if Token.isWordChar c then some ⟨.word [c], tokens⟩
  else (Token.ofMark? c).map fun token => ⟨.between, token :: tokens⟩

/-- Take one character. -/
def step (s : Scanner) (c : Char) : Option Scanner :=
  match s.mode with
  | .between => enter s.tokens c
  | .word seen =>
    if Token.isWordChar c then some ⟨.word (c :: seen), s.tokens⟩
    else do
      let token ← Token.ofWord? seen.reverse
      enter (token :: s.tokens) c
  | .string seen =>
    if c = '"' then do
      let body ← Text.Escaped.decode seen.reverse
      return ⟨.between, .string (String.ofList body) :: s.tokens⟩
    else if c = '\\' then some ⟨.escape (c :: seen), s.tokens⟩
    else some ⟨.string (c :: seen), s.tokens⟩
  | .escape seen => some ⟨.string (c :: seen), s.tokens⟩

/-- The tokens when the text has ended. -/
def finish (s : Scanner) : Option (List Token) :=
  match s.mode with
  | .between => some s.tokens.reverse
  | .word seen => do
    let token ← Token.ofWord? seen.reverse
    return (token :: s.tokens).reverse
  | .string _ => none
  | .escape _ => none

end Scanner

/-- The tokens of a text. -/
def scan (text : List Char) : Option (List Token) :=
  text.foldlM Scanner.step ⟨.between, []⟩ >>= Scanner.finish

end TransferDrill.Json
