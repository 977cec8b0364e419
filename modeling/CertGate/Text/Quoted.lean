import CertGate.Text.Hex
import CertGate.Text.Hidden

/-!
# Quoted text

A text in quotes, in which quotes, backslashes and all that cannot be seen are escaped.
-/

namespace CertGate.Text

/-- A character as it is shown within double quotes. -/
def quotedChar (c : Char) : List Char :=
  match c with
  | '\x00' => ['\\', '0']
  | '\t' => ['\\', 't']
  | '\n' => ['\\', 'n']
  | '\r' => ['\\', 'r']
  | '"' => ['\\', '"']
  | '\\' => ['\\', '\\']
  | c => if isHidden c then "\\u\x7b".toList ++ hexDigits c.toNat ++ ['}'] else [c]

/-- A text in double quotes, as it is shown. -/
def quoted (s : String) : String :=
  String.ofList ('"' :: s.toList.flatMap quotedChar ++ ['"'])

end CertGate.Text
