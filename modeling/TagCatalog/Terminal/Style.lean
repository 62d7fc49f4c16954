/-!
Styles of the output.

A style is switched on in front of a text and off behind it.  `Style.apply` also
switches it on again wherever the text itself switches styles off.  A styled text
has parts in styles of their own; `shown` is the text with its styles and
`content` the text alone.
-/

namespace TagCatalog.Terminal

inductive Style where
  | bold
  | dimmed
  | italic
  | red
  | green
  | yellow
  | blue
  | purple
  | cyan

namespace Style

def number : Style → String
  | bold => "1"
  | dimmed => "2"
  | italic => "3"
  | red => "31"
  | green => "32"
  | yellow => "33"
  | blue => "34"
  | purple => "35"
  | cyan => "36"

def on (style : Style) : String := "\x1b[" ++ style.number ++ "m"

def off : String := "\x1b[0m"

def apply (colours : Bool) (style : Style) (text : String) : String :=
  if colours then
    style.on ++ text.replace off (off ++ style.on) ++ off
  else
    text

end Style

structure Part where
  styles : List Style
  text : String

/-- The part with its styles switched on in front of it and off behind it. -/
def Part.shown (part : Part) : String :=
  if part.styles.isEmpty then
    part.text
  else
    String.join (part.styles.map Style.on) ++ part.text ++ Style.off

abbrev StyledText : Type := List Part

namespace StyledText

def plain (text : String) : StyledText := [⟨[], text⟩]

def styled (styles : List Style) (text : String) : StyledText := [⟨styles, text⟩]

def content (text : StyledText) : String :=
  String.join (text.map Part.text)

def shown (text : StyledText) : String :=
  String.join (text.map Part.shown)

end StyledText

end TagCatalog.Terminal
