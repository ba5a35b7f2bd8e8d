namespace StepCommand.Yaml

-- An escape in a tag spells an octet, and the octets need not make up a text.
structure Tag where
  octets : List UInt8
deriving DecidableEq, Repr

namespace Tag

-- A zero octet ends a tag.
def ofOctets (octets : List UInt8) : Tag := ⟨octets.takeWhile (· ≠ 0)⟩

def ofString (s : String) : Tag := ofOctets s.toUTF8.data.toList

def append (a b : Tag) : Tag := ⟨a.octets ++ b.octets⟩

def isEmpty (t : Tag) : Bool := t.octets.isEmpty

def isText (t : Tag) : Bool := (String.fromUTF8? ⟨t.octets.toArray⟩).isSome

def isLocal (t : Tag) : Bool := t.octets.head? = some 0x21

def nonSpecific : Tag := ofString "!"

def bool : Tag := ofString "tag:yaml.org,2002:bool"

def int : Tag := ofString "tag:yaml.org,2002:int"

def float : Tag := ofString "tag:yaml.org,2002:float"

def null : Tag := ofString "tag:yaml.org,2002:null"

end Tag

end StepCommand.Yaml
