import DocStore.Json.Order

/-!
# JSON text

One printer with the spacing as a parameter. The text form of a value writes its stored form with
a space after commas and colons, gives strings unquoted, and is absent for null.
-/

namespace DocStore.Json

def hexDigit (n : Nat) : Char :=
  if n < 10 then Char.ofNat (48 + n) else Char.ofNat (87 + n)

/-- Only quotes, backslashes and control characters are escaped. -/
def escape (c : Char) : List Char :=
  if c = '\"' then ['\\', '\"']
  else if c = '\\' then ['\\', '\\']
  else if 0x20 ≤ c.toNat then [c]
  else if c.toNat = 0x08 then ['\\', 'b']
  else if c.toNat = 0x09 then ['\\', 't']
  else if c.toNat = 0x0A then ['\\', 'n']
  else if c.toNat = 0x0C then ['\\', 'f']
  else if c.toNat = 0x0D then ['\\', 'r']
  else ['\\', 'u', '0', '0', hexDigit (c.toNat / 16), hexDigit (c.toNat % 16)]

def quote (s : String) : List Char :=
  '\"' :: s.toList.flatMap escape ++ ['\"']

structure Spacing where
  comma : List Char
  colon : List Char

def Spacing.compact : Spacing := ⟨[','], [':']⟩

def Spacing.spaced : Spacing := ⟨[',', ' '], [':', ' ']⟩

mutual

def print (spacing : Spacing) : Json → List Char
  | .null => ['n', 'u', 'l', 'l']
  | .bool true => ['t', 'r', 'u', 'e']
  | .bool false => ['f', 'a', 'l', 's', 'e']
  | .number value => value.text.toList
  | .string value => quote value
  | .array [] => ['[', ']']
  | .array (item :: rest) => '[' :: (print spacing item ++ printItems spacing rest ++ [']'])
  | .object [] => ['\x7b', '\x7d']
  | .object ((key, value) :: rest) =>
      '\x7b' :: (quote key ++ spacing.colon ++ print spacing value ++
        printEntries spacing rest ++ ['\x7d'])

def printItems (spacing : Spacing) : List Json → List Char
  | [] => []
  | item :: rest => spacing.comma ++ print spacing item ++ printItems spacing rest

def printEntries (spacing : Spacing) : List (String × Json) → List Char
  | [] => []
  | (key, value) :: rest =>
      spacing.comma ++ quote key ++ spacing.colon ++ print spacing value ++
        printEntries spacing rest

end

def compact (json : Json) : String := String.ofList (print .compact json)

/-- The text form: strings as they are, nothing for null, all else as spaced JSON. -/
def text? : Json → Option String
  | .null => none
  | .string value => some value
  | json => some (String.ofList (print .spaced json.canonical))

end DocStore.Json
