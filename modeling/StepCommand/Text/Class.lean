import StepCommand.Text.Alphabetic
import StepCommand.Text.Extender
import StepCommand.Text.Invisible
import StepCommand.Text.Numeric

namespace StepCommand.Text

def isAlphabetic (c : Char) : Bool := alphabetic.contains c.toNat

def isAlphanumeric (c : Char) : Bool := isAlphabetic c || numeric.contains c.toNat

-- Letters, digits and the underscore make up the words of a name.
def isWordChar (c : Char) : Bool := isAlphanumeric c || c == '_'

def blank : Intervals := [
  (0x9, 0xd), (0x20, 0x20), (0x85, 0x85), (0xa0, 0xa0), (0x1680, 0x1680), (0x2000, 0x200a),
  (0x2028, 0x2029), (0x202f, 0x202f), (0x205f, 0x205f), (0x3000, 0x3000)]

-- The property White_Space.
def isBlank (c : Char) : Bool := blank.contains c.toNat

-- The space is the one separator that is shown as it is.
def isVisible (c : Char) : Bool := c == ' ' || !invisible.contains c.toNat

def isExtender (c : Char) : Bool := extender.contains c.toNat

end StepCommand.Text
