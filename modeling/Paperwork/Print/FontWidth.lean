/-
The widths of characters in Helvetica, in thousandths of the font size.
-/
namespace Paperwork.Print

/-- The width of digits and of most small letters; it also serves for characters that
are not in the table. -/
def usualWidth : Nat := 556

/-- Characters with their widths where these are not the usual one. -/
def unusualWidths : List (Nat × List Char) :=
  [(191, "'".toList), (222, "ijl".toList), (260, "|".toList),
    (278, " !,./:;I[\\]ft".toList), (333, "()-`r".toList), (334, ['\x7b', '\x7d']),
    (355, "\"".toList), (389, "*".toList), (469, "^".toList), (500, "Jckxyzsv".toList),
    (584, "+<=>~".toList), (611, "FTZ".toList), (667, "&ABEKPSVXY".toList),
    (722, "CDHNRUw".toList), (778, "GOQ".toList), (833, "Mm".toList), (889, "%".toList),
    (944, "W".toList), (1015, "@".toList)]

/-- The width of a character. -/
def charWidth (c : Char) : Nat :=
  match unusualWidths.find? fun (_, cs) => cs.contains c with
  | some (width, _) => width
  | none => usualWidth

/-- The width of a text. -/
def textWidth (cs : List Char) : Nat := (cs.map charWidth).foldl Nat.add 0

end Paperwork.Print
