/-!
# Styled texts

A text for a terminal is made of lines, and a line of spans, each of which may have a style. A
style is switched on by a sequence of codes and off by the reset sequence. Where a styled text has
the reset sequence in it, its style is switched on again behind it.
-/

namespace CustomFields.Text

/-- The styles of a terminal. -/
inductive Style where
  | bold
  | dimmed
  | red
  | green
  | yellow
  | cyan
  | boldCyan
deriving DecidableEq, Repr

/-- What a terminal is told to show a style. -/
def Style.codes : Style → String
  | .bold => "1"
  | .dimmed => "2"
  | .red => "31"
  | .green => "32"
  | .yellow => "33"
  | .cyan => "36"
  | .boldCyan => "1;36"

/-- The sequence that switches a style on. -/
def Style.sequence (s : Style) : List Char :=
  '\x1b' :: '[' :: s.codes.toList ++ ['m']

/-- The sequence that switches all styles off. -/
def reset : List Char := ['\x1b', '[', '0', 'm']

/-- Puts a sequence behind each reset sequence of a text. -/
def afterResets (sequence : List Char) : List Char → List Char
  | [] => []
  | '\x1b' :: '[' :: '0' :: 'm' :: cs => reset ++ sequence ++ afterResets sequence cs
  | c :: cs => c :: afterResets sequence cs

/-- A text in one style. -/
structure Span where
  text : String
  style : Option Style := none
deriving DecidableEq, Repr

/-- A line of texts in several styles. -/
abbrev Line := List Span

instance : Coe String Span := ⟨fun text => { text }⟩

/-- A text in a style. -/
def styled (style : Style) (text : String) : Span :=
  ⟨text, some style⟩

/-- The characters of a span; where there are no colours, styles are left out. -/
def Span.chars (colored : Bool) (s : Span) : List Char :=
  match colored, s.style with
  | true, some style =>
    style.sequence ++ afterResets style.sequence s.text.toList ++ reset
  | _, _ => s.text.toList

/-- The text of lines, each with a break behind it. -/
def render (colored : Bool) (lines : List Line) : String :=
  String.ofList (lines.flatMap fun line => line.flatMap (·.chars colored) ++ ['\n'])

end CustomFields.Text
