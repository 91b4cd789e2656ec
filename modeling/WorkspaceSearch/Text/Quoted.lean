import WorkspaceSearch.Text.Quoted.Table
import WorkspaceSearch.Text.Runs

/-!
# Texts in double quotes

A text is put into double quotes with every character of it visible: quotes and backslashes follow a backslash, a few
controls are named by a letter, and all other characters that are not shown are written as their number.
-/

namespace WorkspaceSearch

namespace Chars

/-- A character by its number in hexadecimal digits. -/
def numbered (c : Char) : List Char := ['\\', 'u', '\x7b'] ++ Nat.toDigits 16 c.toNat ++ ['\x7d']

/-- A character as it is written between double quotes. -/
def escaped (c : Char) : List Char :=
  match c with
  | '"' => ['\\', '"']
  | '\\' => ['\\', '\\']
  | '\n' => ['\\', 'n']
  | '\r' => ['\\', 'r']
  | '\t' => ['\\', 't']
  | '\x00' => ['\\', '0']
  | c => if inRuns hiddenRuns c then numbered c else [c]

end Chars

/-- A text in double quotes. -/
def Text.quoted (s : String) : String := "\"" ++ .ofList (s.toList.flatMap Chars.escaped) ++ "\""

end WorkspaceSearch
