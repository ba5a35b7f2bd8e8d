namespace StepCommand.Template

def isTagSpace (c : Char) : Bool := c == ' ' || c == '\t' || c == '\n' || c == '\r'

-- All characters outside ASCII count as letters.
def isSymbol (c : Char) : Bool := c.isAlphanum || "_-$:".toList.contains c || 0x80 ≤ c.toNat

def skipSpace (s : List Char) : List Char := s.dropWhile isTagSpace

def symbol? (s : List Char) : Option (String × List Char) :=
  let name := s.takeWhile isSymbol
  if name.isEmpty then none else some (String.ofList name, s.dropWhile isSymbol)

-- The name of a function or a part may hold slashes, but not begin with one.
def identifier? (s : List Char) : Option (String × List Char) :=
  let continues (c : Char) : Bool := isSymbol c || c == '/'
  if (s.head?.map isSymbol).getD false then
    some (String.ofList (s.takeWhile continues), s.dropWhile continues)
  else none

-- What follows a word that ends there.
def afterWord? (word : String) (s : List Char) : Option (List Char) :=
  match word.toList.isPrefixOf? s with
  | some rest => if (rest.head?.map isSymbol).getD false then none else some rest
  | none => none

def isKeyword (s : List Char) : Bool := (afterWord? "as" s <|> afterWord? "else" s).isSome

end StepCommand.Template
