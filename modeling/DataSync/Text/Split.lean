/-!
# Splitting texts

The parts of a text before and after a separator.
-/

namespace DataSync.Text

/-- The characters before and after the first `separator`. -/
def splitAt? (separator : Char) : List Char → Option (List Char × List Char)
  | [] => none
  | c :: rest =>
    if c = separator then some ([], rest)
    else (splitAt? separator rest).map fun (before, after) => (c :: before, after)

/-- The characters before and after the last `separator`. -/
def splitAtLast? (separator : Char) (chars : List Char) : Option (List Char × List Char) :=
  (splitAt? separator chars.reverse).map fun (after, before) => (before.reverse, after.reverse)

/-- The characters before and after the first occurrence of a text. -/
def splitAtText? (separator : List Char) : List Char → Option (List Char × List Char)
  | [] => if separator.isEmpty then some ([], []) else none
  | c :: rest =>
    if separator.isPrefixOf (c :: rest) then some ([], (c :: rest).drop separator.length)
    else (splitAtText? separator rest).map fun (before, after) => (c :: before, after)

/-- All parts between occurrences of a separator, of which there is always at least one. -/
def splitAll (separator : Char) : List Char → List (List Char)
  | [] => [[]]
  | c :: rest =>
    match splitAll separator rest with
    | [] => [[c]]
    | part :: parts => if c = separator then [] :: part :: parts else (c :: part) :: parts

/-- The characters after a scheme, which may be written in any case. -/
def afterScheme? (scheme : String) (chars : List Char) : Option (List Char) :=
  let length := scheme.toList.length
  if (chars.take length).map Char.toLower = scheme.toList then some (chars.drop length) else none

end DataSync.Text
