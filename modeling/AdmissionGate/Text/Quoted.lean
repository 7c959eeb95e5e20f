import AdmissionGate.Text.Unprinted

/-!
# Quoted text

Messages quote the texts that they are about.  Inside the quotes a quotation mark and a backslash follow a backslash,
line feed, carriage return, tab and NUL have short names, and every other character that would not be seen as it is
stands as its number in hexadecimal.  An apostrophe needs no escape.
-/

namespace AdmissionGate.Text

/-- A number in lower case hexadecimal digits, without leading zeros. -/
def hexDigits (n : Nat) : List Char :=
  Nat.toDigits 16 n

/-- How one character is written between quotation marks. -/
def quotedChar (c : Char) : List Char :=
  if c = '"' then ['\\', '"']
  else if c = '\\' then ['\\', '\\']
  else if c = '\n' then ['\\', 'n']
  else if c = '\r' then ['\\', 'r']
  else if c = '\t' then ['\\', 't']
  else if c = Char.ofNat 0 then ['\\', '0']
  else if isUnprinted c then '\\' :: 'u' :: '\x7b' :: (hexDigits c.toNat ++ ['\x7d'])
  else [c]

def quoted (s : String) : String :=
  String.ofList ('"' :: (s.toList.flatMap quotedChar ++ ['"']))

def quotedList (items : List String) : String :=
  "[" ++ ", ".intercalate (items.map quoted) ++ "]"

end AdmissionGate.Text
