import ServerLink.Text.Printable

namespace ServerLink.Text.Quoted

def hexDigits (n : Nat) : List Char :=
  Nat.toDigits 16 n

def escape (c : Char) : List Char :=
  if c = '\x00' then ['\\', '0']
  else if c = '\t' then ['\\', 't']
  else if c = '\r' then ['\\', 'r']
  else if c = '\n' then ['\\', 'n']
  else if c = '"' ∨ c = '\\' then ['\\', c]
  else if isPrintable c && !extendsGrapheme c then [c]
  else ['\\', 'u', '\x7b'] ++ hexDigits c.toNat ++ ['\x7d']

def quote (s : List Char) : List Char :=
  '"' :: s.flatMap escape ++ ['"']

end ServerLink.Text.Quoted

namespace ServerLink.Text

def quoted (s : String) : String :=
  String.ofList (Quoted.quote s.toList)

end ServerLink.Text
