import RouteDocs.Decimal
import RouteDocs.Json.Basic

namespace RouteDocs

/-- Numbers from `1e-5` up to `1e16` are written without an exponent. -/
def Json.numberStyle : Decimal.Style := ⟨-5, 15, "+"⟩

def Number.text (style : Decimal.Style) : Number → String
  | .int n => toString n
  | .float x => Decimal.text style x

namespace Json

/-- Only quotes, backslashes and control characters are escaped. -/
def escapeChar (c : Char) : List Char :=
  match c with
  | '"' => ['\\', '"']
  | '\\' => ['\\', '\\']
  | '\x08' => ['\\', 'b']
  | '\x0c' => ['\\', 'f']
  | '\n' => ['\\', 'n']
  | '\r' => ['\\', 'r']
  | '\t' => ['\\', 't']
  | c =>
    if c.toNat < 0x20 then
      ['\\', 'u', '0', '0', Nat.digitChar (c.toNat / 16), Nat.digitChar (c.toNat % 16)]
    else [c]

def quoted (s : String) : String := "\"" ++ String.ofList (s.toList.flatMap escapeChar) ++ "\""

mutual

def compact : Json → String
  | .null => "null"
  | .bool b => if b then "true" else "false"
  | .num n => n.text numberStyle
  | .str s => quoted s
  | .arr elements => "[" ++ ",".intercalate (compactElements elements) ++ "]"
  | .obj fields => "\x7b" ++ ",".intercalate (compactFields fields) ++ "\x7d"

def compactElements : List Json → List String
  | [] => []
  | v :: vs => compact v :: compactElements vs

def compactFields : List (String × Json) → List String
  | [] => []
  | (k, v) :: fs => (quoted k ++ ":" ++ compact v) :: compactFields fs

end

/-- Two blanks for each level. -/
def indentation (depth : Nat) : String := String.ofList (List.replicate (2 * depth) ' ')

/-- Entries on lines of their own between brackets. -/
def linesBetween (opening closing : String) (depth : Nat) (entries : List String) : String :=
  if entries.isEmpty then opening ++ closing
  else
    opening ++ "\n" ++ ",\n".intercalate (entries.map (indentation (depth + 1) ++ ·)) ++
      "\n" ++ indentation depth ++ closing

mutual

/-- The indented text of a value that stands at the given depth. -/
def prettyAt (depth : Nat) : Json → String
  | .arr elements => linesBetween "[" "]" depth (prettyElements (depth + 1) elements)
  | .obj fields => linesBetween "\x7b" "\x7d" depth (prettyFields (depth + 1) fields)
  | v => compact v

def prettyElements (depth : Nat) : List Json → List String
  | [] => []
  | v :: vs => prettyAt depth v :: prettyElements depth vs

def prettyFields (depth : Nat) : List (String × Json) → List String
  | [] => []
  | (k, v) :: fs => (quoted k ++ ": " ++ prettyAt depth v) :: prettyFields depth fs

end

/-- The indented text, without a line end behind it. -/
def pretty (v : Json) : String := prettyAt 0 v

end Json

end RouteDocs
