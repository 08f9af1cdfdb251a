/-
Writing a text so that HTML shows it as it is.
-/
namespace Paperwork.Html

/-- How one character is written: the five that mean something to markup are written
as references, every other stands for itself. -/
def escapeChar (c : Char) : List Char :=
  match c with
  | '&' => ['&', 'a', 'm', 'p', ';']
  | '<' => ['&', 'l', 't', ';']
  | '>' => ['&', 'g', 't', ';']
  | '"' => ['&', 'q', 'u', 'o', 't', ';']
  | '\'' => ['&', '#', 'x', '2', '7', ';']
  | c => [c]

/-- A text written for HTML. -/
def escapeChars (cs : List Char) : List Char := cs.flatMap escapeChar

/-- A text written for HTML. -/
def escape (text : String) : String := String.ofList (escapeChars text.toList)

theorem escapeChars_nil : escapeChars [] = [] := rfl

theorem escapeChars_cons (c : Char) (cs : List Char) :
    escapeChars (c :: cs) = escapeChar c ++ escapeChars cs := rfl

end Paperwork.Html
