import PatchReview.Text.Hex
import PatchReview.Text.Printable
import PatchReview.Text.Surrogate

/-!
# Quoted text

A text inside a message is quoted so that its ends and its invisible
characters show. Single quotes are preferred; double quotes are used for a
text that holds single quotes and no double ones. Characters that are not
printable become hexadecimal escapes of two, four or eight digits.
-/

namespace PatchReview.Text

def quoteMark (text : List Char) : Char :=
  if text.contains '\'' && !text.contains '"' then '"' else '\''

def hexEscape (c : Char) : List Char :=
  let code := codeOf c
  if code < 256 then '\\' :: 'x' :: hexDigits 2 code
  else if code < 65536 then '\\' :: 'u' :: hexDigits 4 code
  else '\\' :: 'U' :: hexDigits 8 code

def quotedChar (mark c : Char) : List Char :=
  if c == mark || c == '\\' then ['\\', c]
  else if c == '\t' then ['\\', 't']
  else if c == '\n' then ['\\', 'n']
  else if c == '\r' then ['\\', 'r']
  else if isPrintable c then [c]
  else hexEscape c

def quoteChars (text : List Char) : List Char :=
  let mark := quoteMark text
  mark :: text.flatMap (quotedChar mark) ++ [mark]

def quote (text : String) : String := String.ofList (quoteChars text.toList)

def quoteAscii (text : List Char) : List Char :=
  (quoteChars text).flatMap fun c => if c.toNat < 128 then [c] else hexEscape c

end PatchReview.Text
