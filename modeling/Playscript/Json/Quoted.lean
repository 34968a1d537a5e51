/-!
A text as a JSON string: quotes, backslashes and control characters are escaped, all else stands
as it is.
-/

namespace Playscript.Json

def hexDigit (value : Nat) : Char :=
  if value < 10 then Char.ofNat (0x30 + value) else Char.ofNat (0x57 + value)

def escapeChar (c : Char) : List Char :=
  match c.toNat with
  | 0x22 => ['\\', '"']
  | 0x5C => ['\\', '\\']
  | 0x08 => ['\\', 'b']
  | 0x09 => ['\\', 't']
  | 0x0A => ['\\', 'n']
  | 0x0C => ['\\', 'f']
  | 0x0D => ['\\', 'r']
  | code =>
    if code < 0x20 then ['\\', 'u', '0', '0', hexDigit (code / 16), hexDigit (code % 16)] else [c]

def quotedChars (text : List Char) : List Char :=
  '"' :: text.flatMap escapeChar ++ ['"']

def quote (text : String) : String :=
  String.ofList (quotedChars text.toList)

end Playscript.Json
