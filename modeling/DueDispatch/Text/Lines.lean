/-!
# DueDispatch — lines of a text

A line ends with a line feed, which a carriage return may precede.
-/

namespace DueDispatch.Text

/-- The first line of a text, without its end. -/
def firstLine (text : String) : String :=
  let line := text.toList.takeWhile (· != '\n')
  if line.length < text.toList.length && line.getLast? == some '\r' then
    String.ofList line.dropLast
  else String.ofList line

/-- A text with so many blanks before every line but the first. -/
def indentRest (width : Nat) (text : String) : String :=
  String.ofList (text.toList.flatMap fun c =>
    if c = '\n' then '\n' :: List.replicate width ' ' else [c])

end DueDispatch.Text
