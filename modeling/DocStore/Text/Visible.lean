import DocStore.Text.Extender
import DocStore.Text.Unprintable

/-!
# Visible text

A text between double quotes in which every character can be seen: quotes and backslashes stand
behind a backslash, and a character that would not show by itself is written by a letter or by its
code point.
-/

namespace DocStore.Text

/-- The letter that stands for a character behind a backslash. -/
def escapeLetter? (c : Char) : Option Char :=
  if c = '\"' then some '\"'
  else if c = '\\' then some '\\'
  else if c = '\n' then some 'n'
  else if c = '\r' then some 'r'
  else if c = '\t' then some 't'
  else if c.toNat = 0 then some '0'
  else none

/-- The code point in hexadecimal digits, in lower case and without leading zeros. -/
def codePoint (c : Char) : List Char :=
  '\\' :: 'u' :: '\x7b' :: (Nat.toDigits 16 c.toNat ++ ['\x7d'])

/-- Characters that would not show by themselves. -/
def isHidden (c : Char) : Bool := isExtender c || isIgnorable c || isUnprintable c

def visibleChar (c : Char) : List Char :=
  match escapeLetter? c with
  | some letter => ['\\', letter]
  | none => if isHidden c then codePoint c else [c]

def visible (text : String) : String :=
  String.ofList ('\"' :: text.toList.flatMap visibleChar ++ ['\"'])

end DocStore.Text
