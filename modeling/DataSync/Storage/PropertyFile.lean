import DataSync.Basic
import DataSync.Table
import DataSync.Text.Blank
import DataSync.Text.Numeral
import DataSync.Text.Split

/-!
# Property files

The text form of a table of properties: one line `key = value` for each, in key order.  Blank lines
and lines that start with `#` are comments.  Keys and values lose the blanks around them; a character
that would not survive this, or that means something else at its place, is written octet by octet as
`!` and two hexadecimal digits.
-/

namespace DataSync

/-- Values of named properties. -/
abbrev Properties := Table String

namespace PropertyFile

/-! ## Writing -/

/-- Whether a character at this place must be written in escaped form. -/
def needsEscape (inKey first last : Bool) (c : Char) : Bool :=
  if c = '!' ∨ c = '\n' ∨ c = '\r' then true
  else if c = '=' then inKey
  else if c = '#' then first
  else Text.isBlank c && (first || last)

/-- The escaped form of a character. -/
def escaped (c : Char) : List Char :=
  (String.utf8EncodeChar c).flatMap fun b => '!' :: Text.hexOctet b

/-- The written form of the characters of a key or value, or of their end if `first` does not
hold. -/
def escapeChars (inKey first : Bool) : List Char → List Char
  | [] => []
  | c :: rest =>
    (if needsEscape inKey first rest.isEmpty c then escaped c else [c])
      ++ escapeChars inKey false rest

/-- The line of a property. -/
def renderEntry (entry : String × String) : List Char :=
  escapeChars true true entry.1.toList ++ [' ', '=', ' ']
    ++ escapeChars false true entry.2.toList ++ ['\n']

/-- The text of a property file. -/
def render (properties : Properties) : String :=
  String.ofList (properties.entries.flatMap renderEntry)

/-! ## Reading -/

/-- What is wrong with a line. -/
inductive Problem where
  | missingEquals
  | badKey
  | badValue
deriving DecidableEq

/-- The text of a problem. -/
def Problem.message : Problem → String
  | .missingEquals => "missing '='"
  | .badKey => "bad escape in key"
  | .badValue => "bad escape in value"

/-- The octets that the written form of a key or value stands for. -/
def unescapeChars : List Char → Option Bytes
  | [] => some []
  | '!' :: a :: b :: rest => do
    let octet ← Text.octetField? a b
    return octet :: (← unescapeChars rest)
  | c :: rest =>
    if c = '!' then none
    else (unescapeChars rest).map (String.utf8EncodeChar c ++ ·)

/-- The text that the written form of a key or value stands for. -/
def unescape (chars : List Char) : Option String :=
  (unescapeChars chars).bind Bytes.text?

/-- The property in a line, or nothing if the line is blank or a comment. -/
def readLine (raw : List Char) : Except Problem (Option (String × String)) :=
  match Text.trimChars raw with
  | [] => .ok none
  | '#' :: _ => .ok none
  | line =>
    match Text.splitAt? '=' line with
    | none => .error .missingEquals
    | some (key, value) =>
      match unescape (Text.trimChars key) with
      | none => .error .badKey
      | some key =>
        match unescape (Text.trimChars value) with
        | none => .error .badValue
        | some value => .ok (some (key, value))

/-- The properties in lines that start with line `number`, added to those before. -/
def readLines (number : Nat) (properties : Properties) :
    List (List Char) → Except (Nat × Problem) Properties
  | [] => .ok properties
  | line :: rest =>
    match readLine line with
    | .error problem => .error (number, problem)
    | .ok none => readLines (number + 1) properties rest
    | .ok (some (key, value)) => readLines (number + 1) (properties.insert key value) rest

/-- The properties in the text of a file, or the number of the first line that holds none and what
is wrong with it.  Of two lines with one key the later counts. -/
def parse (text : String) : Except (Nat × Problem) Properties :=
  readLines 1 .empty (Text.splitAll '\n' text.toList)

end PropertyFile

end DataSync
