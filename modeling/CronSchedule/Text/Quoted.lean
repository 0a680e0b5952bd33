/-!
# Quoted strings

The spelling of a text as a JSON string: quotes, backslashes and control
characters are escaped, and everything else stands as it is.
-/

set_option autoImplicit false

namespace CronSchedule.Text

/-- A character within quotes; control characters without a letter of their own are written with
four hexadecimal digits. -/
def quotedCharacter (c : Char) : List Char :=
  match c with
  | '"' => ['\\', '"']
  | '\\' => ['\\', '\\']
  | '\x08' => ['\\', 'b']
  | '\x0c' => ['\\', 'f']
  | '\n' => ['\\', 'n']
  | '\r' => ['\\', 'r']
  | '\t' => ['\\', 't']
  | _ =>
    if c.toNat < 0x20 then ['\\', 'u', '0', '0', Nat.digitChar (c.toNat / 16), Nat.digitChar (c.toNat % 16)]
    else [c]

/-- A text between double quotes. -/
def quoted (text : String) : String :=
  String.ofList ('"' :: text.toList.flatMap quotedCharacter ++ ['"'])

end CronSchedule.Text
