import Countersign.Text.Printable

/-! Texts between quotes, as they stand in messages and records. -/
namespace Countersign.Text

/-- A character by its code point in hexadecimal. -/
def byCodePoint (c : Char) : List Char :=
  "\\u\x7b".toList ++ Nat.toDigits 16 c.toNat ++ ['\x7d']

/-- `quote` is the mark around the text: it is escaped, the other kind of quote is not. -/
def escapeIn (quote c : Char) : List Char :=
  if c = '\x00' then ['\\', '0']
  else if c = '\t' then ['\\', 't']
  else if c = '\n' then ['\\', 'n']
  else if c = '\r' then ['\\', 'r']
  else if c = '\\' then ['\\', '\\']
  else if c = quote then ['\\', quote]
  else if isPlain c then [c]
  else byCodePoint c

def quoted (s : String) : String :=
  String.ofList ('"' :: s.toList.flatMap (escapeIn '"') ++ ['"'])

def quotedChar (c : Char) : String := String.ofList ('\'' :: escapeIn '\'' c ++ ['\''])

end Countersign.Text
