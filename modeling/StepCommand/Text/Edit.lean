import StepCommand.Text.Class

namespace StepCommand.Text

-- `skip` counts the characters of the last match that are still to be passed over.
def replaceFrom (pattern replacement : List Char) : Nat → List Char → List Char
  | _, [] => []
  | skip + 1, _ :: rest => replaceFrom pattern replacement skip rest
  | 0, c :: rest =>
      if pattern.isPrefixOf (c :: rest) then
        replacement ++ replaceFrom pattern replacement (pattern.length - 1) rest
      else
        c :: replaceFrom pattern replacement 0 rest

-- Matches are found from the left and do not overlap.
def replaceAll (pattern replacement : String) (s : String) : String :=
  String.ofList (replaceFrom pattern.toList replacement.toList 0 s.toList)

def trimStart (s : List Char) : List Char := s.dropWhile isBlank

def trimEnd (s : List Char) : List Char := (trimStart s.reverse).reverse

def trim (s : List Char) : List Char := trimEnd (trimStart s)

-- The pieces between the separators; there is one more piece than there are separators.
def pieces (separator : Char) : List Char → List (List Char)
  | [] => [[]]
  | c :: rest =>
      if c = separator then [] :: pieces separator rest
      else
        match pieces separator rest with
        | [] => [[c]]
        | piece :: more => (c :: piece) :: more

-- What stands before and after the first separator.
def cutAt (separator : Char) : List Char → Option (List Char × List Char)
  | [] => none
  | c :: rest =>
      if c = separator then some ([], rest)
      else (cutAt separator rest).map fun (before, after) => (c :: before, after)

-- A line ends at a line feed; a carriage return before it does not belong to the line.
def lines (s : String) : List String :=
  let all := (pieces '\n' s.toList).map fun line =>
    if line.getLast? = some '\r' then line.dropLast else line
  let last := (pieces '\n' s.toList).getLast?
  (if last = some [] then all.dropLast else (all.dropLast ++ last.toList)).map String.ofList

end StepCommand.Text
