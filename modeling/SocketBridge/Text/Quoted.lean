import SocketBridge.Text.Digits
import SocketBridge.Text.Printable

/-!
# Quoted text

A text between double quotes in which every character can be seen: quotes and backslashes get a
backslash, the usual controls their letter, and what does not show its code point in braces.
-/

namespace SocketBridge.Text

def quotedChar (c : Char) : List Char :=
  if c = '\x00' then ['\\', '0']
  else if c = '\t' then ['\\', 't']
  else if c = '\r' then ['\\', 'r']
  else if c = '\n' then ['\\', 'n']
  else if c = '"' then ['\\', '"']
  else if c = '\\' then ['\\', '\\']
  else if shows c then [c]
  else '\\' :: 'u' :: '\x7b' :: hexadecimal c.toNat ++ ['\x7d']

def quoted (s : String) : String :=
  String.ofList ('"' :: s.toList.flatMap quotedChar ++ ['"'])

end SocketBridge.Text
