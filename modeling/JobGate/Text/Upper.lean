/-! Upper case, as far as it decides whether a text is the name of something: names are in ASCII,
so only the letters whose upper case is written in ASCII matter. -/
namespace JobGate.Text

def foreignUppers : List (Char × List Char) :=
  [('ß', ['S', 'S']), ('ı', ['I']), ('ſ', ['S']), ('ﬀ', ['F', 'F']), ('ﬁ', ['F', 'I']),
   ('ﬂ', ['F', 'L']), ('ﬃ', ['F', 'F', 'I']), ('ﬄ', ['F', 'F', 'L']), ('ﬅ', ['S', 'T']),
   ('ﬆ', ['S', 'T'])]

def upperChar (c : Char) : List Char :=
  (foreignUppers.lookup c).getD [c.toUpper]

def upper (s : String) : String := String.ofList (s.toList.flatMap upperChar)

end JobGate.Text
