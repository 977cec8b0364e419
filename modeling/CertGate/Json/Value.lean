import CertGate.Json.Text

/-!
# JSON values and their text
-/

namespace CertGate

/-- A JSON value. Numbers are kept as they are written. -/
inductive Json where
  | null
  | bool (b : Bool)
  | number (written : String)
  | text (s : String)
  | array (items : List Json)
  | object (members : List (String × Json))

namespace Json

/-- A string in quotes. -/
def quote (s : String) : List Char :=
  '"' :: escape s ++ ['"']

mutual

/-- The characters of a value, without blanks and with members in their order. -/
def chars : Json → List Char
  | .null => "null".toList
  | .bool b => (if b then "true" else "false").toList
  | .number written => written.toList
  | .text s => quote s
  | .array items => '[' :: itemChars items ++ [']']
  | .object members => '{' :: memberChars members ++ ['}']

/-- The characters of items, with commas between them. -/
def itemChars : List Json → List Char
  | [] => []
  | [j] => j.chars
  | j :: js => j.chars ++ ',' :: itemChars js

/-- The characters of members, with commas between them. -/
def memberChars : List (String × Json) → List Char
  | [] => []
  | [(key, j)] => quote key ++ ':' :: j.chars
  | (key, j) :: ms => quote key ++ ':' :: (j.chars ++ ',' :: memberChars ms)

end

/-- The text of a value, with the characters of `chars`. -/
def render (j : Json) : String :=
  String.ofList j.chars

end Json

end CertGate
