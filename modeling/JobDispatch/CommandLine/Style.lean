/-!
Text in colours: a sequence before a text turns a style on, and one behind it turns it off.
-/

namespace JobDispatch.CommandLine

inductive Style where
  | bold
  | dimmed
  | red
  | green
  | yellow
  | cyan
  deriving DecidableEq, Repr

namespace Style

def code : Style → String
  | bold => "1"
  | dimmed => "2"
  | red => "31"
  | green => "32"
  | yellow => "33"
  | cyan => "36"

def on (s : Style) : List Char := '\x1B' :: '[' :: s.code.toList ++ ['m']

/-- Turns all styles off. -/
def off : List Char := ['\x1B', '[', '0', 'm']

/-- Turns a style on again wherever a text turns it off. -/
def persist (s : Style) : List Char → List Char
  | '\x1B' :: '[' :: '0' :: 'm' :: r => off ++ s.on ++ persist s r
  | c :: r => c :: persist s r
  | [] => []

def paint (s : Style) (text : String) : String :=
  String.ofList (s.on ++ s.persist text.toList ++ off)

end Style

/-- How texts are styled: in colours, or not at all. -/
abbrev Brush := Style → String → String

def Brush.colours : Brush := Style.paint

def Brush.none : Brush := fun _ text => text

end JobDispatch.CommandLine
