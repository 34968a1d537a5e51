import Playscript.Json.Numeral

/-!
JSON values and their reader. The reader is strict: one value fills the whole text, nothing may
follow the last member of a list or an object but its end, and no mark precedes the value.
-/

namespace Playscript

/-- A JSON value. A string is none when an escape in it names half of a surrogate pair. -/
inductive Json where
  | null
  | bool (value : Bool)
  | number (numeral : Json.Numeral)
  | string (text : Option String)
  | list (items : List Json)
  | object (members : List (Option String × Json))
  deriving Repr, Inhabited

namespace Json

def isSpace (c : Char) : Bool :=
  c == ' ' || c == '\n' || c == '\t' || c == '\r'

def skipSpace (text : List Char) : List Char :=
  text.dropWhile isSpace

def digit? (c : Char) : Option Nat :=
  if '0' ≤ c ∧ c ≤ '9' then some (c.toNat - 0x30) else none

def hexDigit? (c : Char) : Option Nat :=
  if '0' ≤ c ∧ c ≤ '9' then some (c.toNat - 0x30)
  else if 'a' ≤ c ∧ c ≤ 'f' then some (c.toNat - 0x57)
  else if 'A' ≤ c ∧ c ≤ 'F' then some (c.toNat - 0x37)
  else none

def hexValue? (digits : List Char) : Option Nat :=
  (digits.mapM hexDigit?).map fun values => values.foldl (fun value digit => 16 * value + digit) 0

def namedEscape? (c : Char) : Option Nat :=
  match c with
  | '"' => some 0x22
  | '\\' => some 0x5C
  | '/' => some 0x2F
  | 'b' => some 0x08
  | 'f' => some 0x0C
  | 'n' => some 0x0A
  | 'r' => some 0x0D
  | 't' => some 0x09
  | _ => none

def stringCodes : List Char → Option (List Nat × List Char)
  | [] => none
  | '"' :: rest => some ([], rest)
  | '\\' :: 'u' :: a :: b :: c :: d :: rest =>
    (hexValue? [a, b, c, d]).bind fun code =>
      (stringCodes rest).map fun (codes, after) => (code :: codes, after)
  | '\\' :: named :: rest =>
    (namedEscape? named).bind fun code =>
      (stringCodes rest).map fun (codes, after) => (code :: codes, after)
  | c :: rest =>
    if c.toNat < 0x20 then none
    else (stringCodes rest).map fun (codes, after) => (c.toNat :: codes, after)

def isHighSurrogate (code : Nat) : Bool := 0xD800 ≤ code && code ≤ 0xDBFF

def isLowSurrogate (code : Nat) : Bool := 0xDC00 ≤ code && code ≤ 0xDFFF

/-- The characters of a sequence of codes, in which surrogates come in pairs, high before low. -/
def charsOfCodes : List Nat → Option (List Char)
  | [] => some []
  | code :: rest =>
    if isHighSurrogate code then
      match rest with
      | [] => none
      | low :: after =>
        if isLowSurrogate low then
          (charsOfCodes after).map
            (Char.ofNat (0x10000 + 0x400 * (code - 0xD800) + (low - 0xDC00)) :: ·)
        else none
    else if isLowSurrogate code then none
    else (charsOfCodes rest).map (Char.ofNat code :: ·)

def stringText (codes : List Nat) : Option String :=
  (charsOfCodes codes).map String.ofList

def takeDigits : List Char → List Nat × List Char
  | [] => ([], [])
  | c :: rest =>
    match digit? c with
    | none => ([], c :: rest)
    | some digit =>
      let (digits, after) := takeDigits rest
      (digit :: digits, after)

def takeFraction : List Char → Option (Option (List Nat) × List Char)
  | '.' :: rest =>
    let (digits, after) := takeDigits rest
    if digits.isEmpty then none else some (some digits, after)
  | text => some (none, text)

def takeSign : List Char → Bool × List Char
  | '+' :: rest => (false, rest)
  | '-' :: rest => (true, rest)
  | text => (false, text)

def takeExponent : List Char → Option (Option Int × List Char)
  | c :: rest =>
    if c = 'e' ∨ c = 'E' then
      let (negative, digitText) := takeSign rest
      let (digits, after) := takeDigits digitText
      let size : Int := Numeral.ofDigits digits
      if digits.isEmpty then none else some (some (if negative then -size else size), after)
    else some (none, c :: rest)
  | [] => some (none, [])

/-- A numeral without its minus sign. The only numeral that begins with a zero digit has no other
digit before the point. -/
def takeNumeral (negative : Bool) (text : List Char) : Option (Numeral × List Char) := do
  let (whole, afterWhole) := takeDigits text
  if whole.isEmpty || (whole.head? == some 0 && whole.length != 1) then none
  let (fraction, afterFraction) ← takeFraction afterWhole
  let (exponent, after) ← takeExponent afterFraction
  some (⟨negative, whole, fraction, exponent⟩, after)

def afterWord (word : List Char) (text : List Char) : Option (List Char) :=
  if word.isPrefixOf text then some (text.drop word.length) else none

mutual

/-- One value at the start of a text, and the text after it. Every step down takes a character. -/
def takeValue : Nat → List Char → Option (Json × List Char)
  | 0, _ => none
  | fuel + 1, text =>
    match skipSpace text with
    | '"' :: rest => (stringCodes rest).map fun (codes, after) => (.string (stringText codes), after)
    | '[' :: rest =>
      match skipSpace rest with
      | ']' :: after => some (.list [], after)
      | items => (takeItems fuel items).map fun (values, after) => (.list values, after)
    | '\x7b' :: rest =>
      match skipSpace rest with
      | '\x7d' :: after => some (.object [], after)
      | members => (takeMembers fuel members).map fun (values, after) => (.object values, after)
    | '-' :: rest => (takeNumeral true rest).map fun (numeral, after) => (.number numeral, after)
    | 'n' :: rest => (afterWord ['u', 'l', 'l'] rest).map fun after => (.null, after)
    | 't' :: rest => (afterWord ['r', 'u', 'e'] rest).map fun after => (.bool true, after)
    | 'f' :: rest => (afterWord ['a', 'l', 's', 'e'] rest).map fun after => (.bool false, after)
    | digits => (takeNumeral false digits).map fun (numeral, after) => (.number numeral, after)

def takeItems : Nat → List Char → Option (List Json × List Char)
  | 0, _ => none
  | fuel + 1, text =>
    (takeValue fuel text).bind fun (value, after) =>
      match skipSpace after with
      | ',' :: rest => (takeItems fuel rest).map fun (values, final) => (value :: values, final)
      | ']' :: rest => some ([value], rest)
      | _ => none

def takeMembers : Nat → List Char → Option (List (Option String × Json) × List Char)
  | 0, _ => none
  | fuel + 1, text =>
    match skipSpace text with
    | '"' :: rest =>
      (stringCodes rest).bind fun (codes, afterName) =>
        match skipSpace afterName with
        | ':' :: valueText =>
          (takeValue fuel valueText).bind fun (value, after) =>
            match skipSpace after with
            | ',' :: more =>
              (takeMembers fuel more).map fun (members, final) =>
                ((stringText codes, value) :: members, final)
            | '\x7d' :: final => some ([(stringText codes, value)], final)
            | _ => none
        | _ => none
    | _ => none

end

def parse? (text : String) : Option Json :=
  (takeValue (text.length + 1) text.toList).bind fun (value, after) =>
    if (skipSpace after).isEmpty then some value else none

end Json
end Playscript
