import DocStore.Json
import DocStore.Lists
import DocStore.Number.Literal

/-!
# Reading JSON text

Reads one value that takes up the whole text. Containers nest up to a fixed depth. A number beyond
the finite doubles is refused, as is half of a surrogate pair.
-/

namespace DocStore.Json.Reader

def isSpace (c : Char) : Bool := c == ' ' || c == '\n' || c == '\t' || c == '\r'

def skipSpace (text : List Char) : List Char := text.dropWhile isSpace

def hexValue? (c : Char) : Option Nat :=
  if c.isDigit then some (c.toNat - 48)
  else if 'a' ≤ c && c ≤ 'f' then some (c.toNat - 87)
  else if 'A' ≤ c && c ≤ 'F' then some (c.toNat - 55)
  else none

def codeUnit? (a b c d : Char) : Option Nat := do
  return (← hexValue? a) * 4096 + (← hexValue? b) * 256 + (← hexValue? c) * 16 + (← hexValue? d)

def escaped? : Char → Option Char
  | '\"' => some '\"'
  | '\\' => some '\\'
  | '/' => some '/'
  | 'b' => some (Char.ofNat 0x08)
  | 'f' => some (Char.ofNat 0x0C)
  | 'n' => some '\n'
  | 'r' => some '\r'
  | 't' => some '\t'
  | _ => none

def surrogatePair (high low : Nat) : Char :=
  Char.ofNat (0x10000 + (high - 0xD800) * 0x400 + (low - 0xDC00))

/-- The characters up to the closing quote, in reverse before `seen`, and the text behind it. -/
def readChars (seen : List Char) : List Char → Option (List Char × List Char)
  | [] => none
  | '\"' :: rest => some (seen.reverse, rest)
  | '\\' :: 'u' :: a :: b :: c :: d :: rest =>
      match codeUnit? a b c d with
      | none => none
      | some unit =>
          if 0xD800 ≤ unit && unit < 0xDC00 then
            match rest with
            | '\\' :: 'u' :: e :: f :: g :: h :: tail =>
                match codeUnit? e f g h with
                | none => none
                | some low =>
                    if 0xDC00 ≤ low && low < 0xE000 then
                      readChars (surrogatePair unit low :: seen) tail
                    else none
            | _ => none
          else if 0xDC00 ≤ unit && unit < 0xE000 then none
          else readChars (Char.ofNat unit :: seen) rest
  | '\\' :: c :: rest =>
      match escaped? c with
      | none => none
      | some char => readChars (char :: seen) rest
  | c :: rest => if c.toNat < 0x20 || c == '\\' then none else readChars (c :: seen) rest

def readString (text : List Char) : Option (String × List Char) :=
  (readChars [] text).map fun (chars, rest) => (String.ofList chars, rest)

def readDigits (text : List Char) : Option (List Char × List Char) :=
  match text.takeWhile Char.isDigit with
  | [] => none
  | digits => some (digits, text.dropWhile Char.isDigit)

def readFraction : List Char → Option (List Char × List Char)
  | '.' :: rest => readDigits rest
  | text => some ([], text)

def readExponent : List Char → Option (Option Int × List Char)
  | mark :: rest =>
      if mark == 'e' || mark == 'E' then
        let (negative, unsigned) := Numeral.splitSign rest
        (readDigits unsigned).map fun (digits, tail) =>
          let n : Int := Numeral.value digits
          (some (if negative then -n else n), tail)
      else some (none, mark :: rest)
  | [] => some (none, [])

def readNumber (negative : Bool) (text : List Char) : Option (Number × List Char) := do
  let (whole, rest) ← readDigits text
  if whole.head? == some '0' && whole.length != 1 then none
  let (fraction, rest) ← readFraction rest
  let (exponent, rest) ← readExponent rest
  let value ← (Literal.mk negative whole fraction exponent).number?
  return (value, rest)

def expect? (word : List Char) (value : Json) (text : List Char) : Option (Json × List Char) :=
  if text.take word.length == word then some (value, text.drop word.length) else none

mutual

def readValue (fuel depth : Nat) (text : List Char) : Option (Json × List Char) :=
  match fuel with
  | 0 => none
  | fuel + 1 =>
      match skipSpace text with
      | 'n' :: rest => expect? ['u', 'l', 'l'] .null rest
      | 't' :: rest => expect? ['r', 'u', 'e'] (.bool true) rest
      | 'f' :: rest => expect? ['a', 'l', 's', 'e'] (.bool false) rest
      | '\"' :: rest => (readString rest).map fun (value, tail) => (.string value, tail)
      | '-' :: rest => (readNumber true rest).map fun (value, tail) => (.number value, tail)
      | '[' :: rest =>
          if depth = 0 then none
          else
            match skipSpace rest with
            | ']' :: tail => some (.array [], tail)
            | _ => (readItems fuel (depth - 1) rest).map fun (items, tail) => (.array items, tail)
      | '\x7b' :: rest =>
          if depth = 0 then none
          else
            match skipSpace rest with
            | '\x7d' :: tail => some (.object [], tail)
            | _ =>
                (readEntries fuel (depth - 1) rest).map fun (entries, tail) =>
                  (.object (Keyed.ofList entries), tail)
      | other => (readNumber false other).map fun (value, tail) => (.number value, tail)

def readItems (fuel depth : Nat) (text : List Char) : Option (List Json × List Char) :=
  match fuel with
  | 0 => none
  | fuel + 1 =>
      match readValue fuel depth text with
      | none => none
      | some (item, rest) =>
          match skipSpace rest with
          | ']' :: tail => some ([item], tail)
          | ',' :: tail =>
              (readItems fuel depth tail).map fun (items, behind) => (item :: items, behind)
          | _ => none

def readEntries (fuel depth : Nat) (text : List Char) :
    Option (List (String × Json) × List Char) :=
  match fuel with
  | 0 => none
  | fuel + 1 =>
      match skipSpace text with
      | '\"' :: rest =>
          match readString rest with
          | none => none
          | some (key, afterKey) =>
              match skipSpace afterKey with
              | ':' :: afterColon =>
                  match readValue fuel depth afterColon with
                  | none => none
                  | some (value, afterValue) =>
                      match skipSpace afterValue with
                      | '\x7d' :: tail => some ([(key, value)], tail)
                      | ',' :: tail =>
                          (readEntries fuel depth tail).map fun (entries, behind) =>
                            ((key, value) :: entries, behind)
                      | _ => none
              | _ => none
      | _ => none

end

/-- The deepest nesting of containers that is read. -/
def maxDepth : Nat := 127

end DocStore.Json.Reader

namespace DocStore.Json

/-- Each level of recursion reads at least one character, so the fuel outlasts the text. -/
def read? (text : String) : Option Json :=
  let chars := text.toList
  match Reader.readValue (2 * chars.length + 2) Reader.maxDepth chars with
  | some (json, rest) => if (Reader.skipSpace rest).isEmpty then some json else none
  | none => none

end DocStore.Json
