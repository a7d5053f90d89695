import PrivateRetrieval.Text.GraphemeExtend
import PrivateRetrieval.Text.Unprintable

namespace PrivateRetrieval
namespace Text

/-!
# Quoted text

Text that a message repeats stands between double quotes.  A quote and a backslash are preceded by
a backslash, the tab, the carriage return, the line feed and the null character have short forms,
and every other character that a reader could not see is written as its code point in hexadecimal.
The single quote is an ordinary character.
-/

/-- The code point in lower-case hexadecimal between braces, after a backslash and the letter u. -/
def codePointEscape (c : Char) : List Char :=
  '\\' :: 'u' :: '\x7b' :: (Nat.toDigits 16 c.val.toNat ++ ['\x7d'])

/-- The written form of one character of quoted text. -/
def quotedCharacter (c : Char) : List Char :=
  match c with
  | '\x00' => ['\\', '0']
  | '\t' => ['\\', 't']
  | '\r' => ['\\', 'r']
  | '\n' => ['\\', 'n']
  | '\\' => ['\\', '\\']
  | '"' => ['\\', '"']
  | _ => if graphemeExtend.covers c || unprintable.covers c then codePointEscape c else [c]

/-- The text between double quotes, each character in its written form. -/
def quoted (text : String) : String :=
  String.ofList ('"' :: (text.toList.flatMap quotedCharacter ++ ['"']))

end Text
end PrivateRetrieval
