import PlanningSearch.Text.Quoted.Table
import PlanningSearch.Text.Words

/-!
Text in double quotes as messages show it: quotes, backslashes, line ends, tabs and zero have short
escapes, and a character that does not print on its own is written by its code point.
-/

namespace PlanningSearch.Text

namespace Quoted

def ranges : List Words.Range := (Words.ofLines unprintable).map Words.range

def prints (c : Char) : Bool :=
  if c.toNat < 0x7F then ' ' ≤ c else !(ranges.any fun r => r.holds c.toNat)

def escape (c : Char) : List Char :=
  match c with
  | '"' => ['\\', '"']
  | '\\' => ['\\', '\\']
  | '\n' => ['\\', 'n']
  | '\r' => ['\\', 'r']
  | '\t' => ['\\', 't']
  | '\x00' => ['\\', '0']
  | c =>
    if prints c then [c]
    else '\\' :: 'u' :: '\x7b' :: Nat.toDigits 16 c.toNat ++ ['\x7d']

end Quoted

def quoted (cs : List Char) : String :=
  String.ofList ('"' :: cs.flatMap Quoted.escape ++ ['"'])

end PlanningSearch.Text
