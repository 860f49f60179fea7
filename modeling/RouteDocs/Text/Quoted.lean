import RouteDocs.Text.Visible

namespace RouteDocs.Text

def hexadecimal (n : Nat) : List Char := Nat.toDigits 16 n

/-- A character that cannot be seen on its own is written as its number. -/
def escaped (c : Char) : List Char :=
  match c with
  | '"' => ['\\', '"']
  | '\\' => ['\\', '\\']
  | '\n' => ['\\', 'n']
  | '\r' => ['\\', 'r']
  | '\t' => ['\\', 't']
  | '\x00' => ['\\', '0']
  | c => if isVisible c then [c] else '\\' :: 'u' :: '{' :: hexadecimal c.toNat ++ ['}']

def quoted (s : String) : String :=
  String.ofList ('"' :: s.toList.flatMap escaped ++ ['"'])

end RouteDocs.Text
