import DueDispatch.Text.Quoted

/-!
# DueDispatch — stream entries

A message becomes one field of a stream entry: its payloads as a JSON array of
strings, without spaces. Only what JSON forbids to stand raw in a string is
escaped, by the short escape where there is one.
-/

namespace DueDispatch.Redis.Entry

/-- One character inside a JSON string. -/
def escaped (c : Char) : List Char :=
  match c with
  | '"' => ['\\', '"']
  | '\\' => ['\\', '\\']
  | '\x08' => ['\\', 'b']
  | '\t' => ['\\', 't']
  | '\n' => ['\\', 'n']
  | '\x0c' => ['\\', 'f']
  | '\r' => ['\\', 'r']
  | c =>
    if c.toNat < 0x20 then
      ['\\', 'u', '0', '0', Nat.digitChar (c.toNat / 16), Nat.digitChar (c.toNat % 16)]
    else [c]

/-- A JSON string. -/
def stringChars (s : String) : List Char := '"' :: (s.toList.flatMap escaped ++ ['"'])

/-- The JSON strings of a list with commas between them. -/
def listChars : List String → List Char
  | [] => []
  | [s] => stringChars s
  | s :: rest => stringChars s ++ ',' :: listChars rest

/-- The text of a stream entry. -/
def encode (payloads : List String) : String :=
  String.ofList ('[' :: (listChars payloads ++ [']']))

end DueDispatch.Redis.Entry
