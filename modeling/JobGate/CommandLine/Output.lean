/-! What a command prints: lines whose parts have styles, and tables. -/
namespace JobGate.CommandLine

inductive Style where
  | red | green | dim | bold
  deriving DecidableEq, Repr

def Style.name : Style → String
  | .red => "red"
  | .green => "green"
  | .dim => "dim"
  | .bold => "bold"

structure Span where
  style : Option Style
  text : String
  deriving DecidableEq, Repr

def Span.markup (s : Span) : String :=
  match s.style with
  | none => s.text
  | some style => "[" ++ style.name ++ "]" ++ s.text ++ "[/]"

structure Table where
  title : String
  columns : List String
  rows : List (List String)
  deriving DecidableEq, Repr

/-- What is handed to the console, and handing it over always succeeds. How the console reads marks
inside a text and lays a table out is not said here. -/
inductive Print where
  | line (spans : List Span)
  | table (t : Table)
  deriving DecidableEq, Repr

def Print.styled (style : Style) (text : String) : Print := .line [⟨some style, text⟩]

def lineMarkup (spans : List Span) : String := String.join (spans.map Span.markup)

def Print.plain : Print → String
  | .line spans => String.join (spans.map Span.text)
  | .table t => "\n".intercalate (t.title :: (t.columns :: t.rows).map (" | ".intercalate ·))

end JobGate.CommandLine
