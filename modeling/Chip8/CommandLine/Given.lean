/-!
# What options are given

There are readers of command lines for which an option with a value in the same word may be given
nothing. Such an option is set all the same. What it is set to is an empty list, which fits nowhere, and
the first use of it fails.
-/

namespace Chip8

/-- What an option is given. -/
inductive Given (Value : Type) where
  | value (value : Value)
  | nothing
  deriving DecidableEq

/-- The uses that fail of an option that was given nothing. -/
inductive Lack where
  | scheme
  | level
  /-- The frequency is divided by the frame rate, which may be given nothing too. -/
  | dividedFrequency (byNothing : Bool)
  | frequencyDivisor
  | frequency
  | cap
  | seed
  | frames
  | frameDivisor
  | side
  | windowSide
  | videoSide
  | toldFrequency
  deriving DecidableEq

def Lack.message : Lack → String
  | scheme => "unhashable type: 'list'"
  | level => "'list' object has no attribute 'upper'"
  | dividedFrequency false => "unsupported operand type(s) for /: 'list' and 'int'"
  | dividedFrequency true => "unsupported operand type(s) for /: 'list' and 'list'"
  | frequencyDivisor => "unsupported operand type(s) for /: 'float' and 'list'"
  | frequency => "'<=' not supported between instances of 'list' and 'int'"
  | cap => "'<' not supported between instances of 'list' and 'int'"
  | seed => "unsupported operand type(s) for &=: 'list' and 'int'"
  | frames => "unsupported format string passed to list.__format__"
  | frameDivisor => "unsupported operand type(s) for /: 'int' and 'list'"
  | side => "'>' not supported between instances of 'list' and 'int'"
  | windowSide => "size must be two numbers"
  | videoSide => "int() argument must be a string, a bytes-like object or a real number, not 'list'"
  | toldFrequency => "float() argument must be a string or a real number, not 'list'"

end Chip8
