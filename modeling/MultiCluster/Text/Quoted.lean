import MultiCluster.Text.Numeral
import MultiCluster.Text.Printable

/-! Texts quoted for diagnostics: quote, backslash and unprintable characters are escaped, all else
stands as it is. -/
namespace MultiCluster.Text

def quotedChar (c : Char) : List Char :=
  match c with
  | '"' => ['\\', '"']
  | '\\' => ['\\', '\\']
  | '\n' => ['\\', 'n']
  | '\r' => ['\\', 'r']
  | '\t' => ['\\', 't']
  | '\x00' => ['\\', '0']
  | c => if isUnprintable c then ['\\', 'u', '{'] ++ (hexText c.toNat).toList ++ ['}'] else [c]

def quotedBody (cs : List Char) : List Char := cs.flatMap quotedChar

def quoted (s : String) : String := "\"" ++ String.ofList (quotedBody s.toList) ++ "\""

end MultiCluster.Text
