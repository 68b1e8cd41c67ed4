/-!
# Texts by byte range

Places in a text are counted in bytes of its UTF-8 form. A range of bytes names a text only if
both its ends are on boundaries between characters.
-/

namespace PayoffLexer.Text

/-- Does a character of the text, or its end, begin at this byte? -/
def isBoundary (text : String) (place : Nat) : Bool :=
  String.Pos.Raw.isValid text ⟨place⟩

/-- The text from byte `start` up to byte `stop`, if that is a range between boundaries. -/
def slice? (text : String) (start stop : Nat) : Option String :=
  if start ≤ stop && isBoundary text start && isBoundary text stop then
    some (String.Pos.Raw.extract text ⟨start⟩ ⟨stop⟩)
  else
    none

end PayoffLexer.Text
