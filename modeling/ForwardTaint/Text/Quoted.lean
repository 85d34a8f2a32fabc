import ForwardTaint.Text.Printable
import ForwardTaint.Json.Printer

/-!
Text between quotes, with an escape for each character that would not show as itself.
-/

namespace ForwardTaint.Text

/-- A character inside quotes. -/
def quotedChar : Char → String
  | '"' => "\\\""
  | '\\' => "\\\\"
  | '\n' => "\\n"
  | '\r' => "\\r"
  | '\t' => "\\t"
  | '\x00' => "\\0"
  | char =>
      if isPrintable char then String.singleton char
      else "\\u\x7b" ++ Json.hexDigits 1 char.toNat ++ "\x7d"

/-- The text between quotes. -/
def quoted (text : String) : String :=
  "\"" ++ String.join (text.toList.map quotedChar) ++ "\""

end ForwardTaint.Text
