import StreamPipelines.Text.Hex
import StreamPipelines.Text.Printable

/-!
Quoted text, as error messages show the text they are about: between double quotes, with a
back slash before quotes and back slashes, the usual letters for line ends, tab and null, and the
code point in braces for every other character that does not stand alone.
-/

namespace StreamPipelines
namespace Text

def codePointEscape (c : Char) : List Char :=
  '\\' :: 'u' :: '{' :: hexDigits c.toNat ++ ['}']

def quotedChar (c : Char) : List Char :=
  if c = '"' then ['\\', '"']
  else if c = '\\' then ['\\', '\\']
  else if c = '\n' then ['\\', 'n']
  else if c = '\r' then ['\\', 'r']
  else if c = '\t' then ['\\', 't']
  else if c.toNat = 0 then ['\\', '0']
  else if standsAlone c then [c]
  else codePointEscape c

def quoted (s : String) : String :=
  String.ofList ('"' :: s.toList.flatMap quotedChar ++ ['"'])

end Text
end StreamPipelines
