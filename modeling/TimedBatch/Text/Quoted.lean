import TimedBatch.Text.Hidden

/-!
# Quoted text

A quoted text stands between double quotes. Inside, the double quote and the backslash follow a
backslash, four controls have a letter, and every other hidden character is written as its code
point in braces. All other characters stand for themselves.
-/

namespace TimedBatch.Text

/-- One character as it stands inside quotes. -/
def escape (character : Char) : List Char :=
  match character with
  | '"' => ['\\', '"']
  | '\\' => ['\\', '\\']
  | '\n' => ['\\', 'n']
  | '\t' => ['\\', 't']
  | '\r' => ['\\', 'r']
  | '\x00' => ['\\', '0']
  | _ =>
      if isHidden character then
        ['\\', 'u', '\x7b'] ++ Nat.toDigits 16 character.toNat ++ ['\x7d']
      else [character]

def quote (text : String) : String :=
  String.ofList ('"' :: text.toList.flatMap escape ++ ['"'])

end TimedBatch.Text
