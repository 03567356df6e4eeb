import Pifp.Types

/-!
# JSON values, as `serde_json` reads and writes them

The indexer reads the topics of an event as JSON text (`serde_json::from_str`)
and looks into the event's data through `Value`'s accessors. This module models
`serde_json::Value`, its accessors, the compact printer behind `to_string`, and
the parser behind `from_str`, with the parser's rules: JSON whitespace, the
literals, numbers as `u64`, negative `i64` or `f64`, strings with their escapes
(a `\u` surrogate must be paired, control characters are refused), nesting up to
the recursion limit of 128, map entries kept sorted by key with a repeated key's
last value winning, and nothing but whitespace after the value.

An `f64` is kept as the literal it was read from; the printer writes it back
as that literal. The parser is given one unit of fuel per character, which is
more than any run uses.

The printer and the parser are inverse on canonical values: numbers that are
integers in range, objects sorted by key, nesting within the limit.
-/

namespace Pifp.Indexer

/-- A `serde_json::Number`: a `u64`, a negative `i64`, or an `f64` kept as the
literal it was read from. -/
inductive JsonNumber
  | posInt (value : Nat)
  | negInt (value : Int)
  | float (literal : String)
  deriving DecidableEq, Repr

/-- `serde_json::Value`. An object's entries are those of its `BTreeMap`, in
key order. -/
inductive Json
  | null
  | bool (value : Bool)
  | number (value : JsonNumber)
  | string (value : String)
  | array (items : List Json)
  | object (entries : List (String × Json))
  deriving Repr

/-- The largest `i64`. -/
def i64Max : Nat := 2 ^ 63 - 1

/-- `Number`'s `Display`: integers in decimal, a float as its literal. -/
def JsonNumber.toString : JsonNumber → String
  | .posInt value => Nat.repr value
  | .negInt value => ToString.toString value
  | .float literal => literal

section Accessors

/-- `Value::get` with a string key: an object's entry for the key, nothing for
any other value. -/
def Json.get (key : String) : Json → Option Json
  | .object entries => entries.lookup key
  | _ => none

/-- `Value::as_str`. -/
def Json.asStr : Json → Option String
  | .string value => some value
  | _ => none

/-- `Value::as_u64`. -/
def Json.asU64 : Json → Option Nat
  | .number (.posInt value) => some value
  | _ => none

/-- `Value::as_i64`: a `u64` above `i64::MAX` has none. -/
def Json.asI64 : Json → Option Int
  | .number (.posInt value) => if value ≤ i64Max then some value else none
  | .number (.negInt value) => some value
  | _ => none

end Accessors

section Printer

/-- The lowercase hexadecimal digit of a value below 16. -/
def hexDigit (value : Nat) : Char :=
  if value < 10 then Char.ofNat (value + 48) else Char.ofNat (value + 87)

/-- How the printer writes one character inside a string: the two-character
escapes, `\u00XX` for the other control characters, the character itself
otherwise. -/
def escapeChar (c : Char) : List Char :=
  if c = '"' then ['\\', '"']
  else if c = '\\' then ['\\', '\\']
  else if c = '\x08' then ['\\', 'b']
  else if c = '\x0c' then ['\\', 'f']
  else if c = '\n' then ['\\', 'n']
  else if c = '\r' then ['\\', 'r']
  else if c = '\t' then ['\\', 't']
  else if c.toNat < 32 then ['\\', 'u', '0', '0', hexDigit (c.toNat / 16), hexDigit (c.toNat % 16)]
  else [c]

/-- The escaped body of a string. -/
def escapeChars : List Char → List Char
  | [] => []
  | c :: rest => escapeChar c ++ escapeChars rest

/-- A string literal: quoted, with its body escaped. -/
def renderString (value : String) : List Char :=
  '"' :: escapeChars value.toList ++ ['"']

mutual
/-- The compact text `to_string` writes: no whitespace, items and entries
separated by commas. -/
def Json.toChars : Json → List Char
  | .null => ['n', 'u', 'l', 'l']
  | .bool true => ['t', 'r', 'u', 'e']
  | .bool false => ['f', 'a', 'l', 's', 'e']
  | .number value => value.toString.toList
  | .string value => renderString value
  | .array [] => ['[', ']']
  | .array (item :: items) => '[' :: item.toChars ++ Json.itemsToChars items
  | .object [] => ['{', '}']
  | .object ((key, value) :: entries) =>
      '{' :: renderString key ++ ':' :: value.toChars ++ Json.entriesToChars entries

/-- The items after the first, each after a comma, then the closing bracket. -/
def Json.itemsToChars : List Json → List Char
  | [] => [']']
  | item :: items => ',' :: item.toChars ++ Json.itemsToChars items

/-- The entries after the first, each after a comma, then the closing brace. -/
def Json.entriesToChars : List (String × Json) → List Char
  | [] => ['}']
  | (key, value) :: entries =>
      ',' :: renderString key ++ ':' :: value.toChars ++ Json.entriesToChars entries
end

/-- `Value::to_string`. -/
def Json.render (value : Json) : String :=
  ⟨value.toChars⟩

end Printer

section Parser

/-- JSON whitespace. -/
def isWhitespace (c : Char) : Bool :=
  c == ' ' || c == '\n' || c == '\t' || c == '\r'

/-- Whitespace is skipped before every token. -/
def skipWhitespace : List Char → List Char
  | [] => []
  | c :: rest => if isWhitespace c then skipWhitespace rest else c :: rest

/-- The value of a hexadecimal digit of either case. -/
def hexValue (c : Char) : Option Nat :=
  if c.isDigit then some (c.toNat - 48)
  else if 'a' ≤ c ∧ c ≤ 'f' then some (c.toNat - 87)
  else if 'A' ≤ c ∧ c ≤ 'F' then some (c.toNat - 55)
  else none

/-- The code unit of a `\uXXXX` escape. -/
def hexEscape (a b c d : Char) : Option Nat := do
  let a ← hexValue a
  let b ← hexValue b
  let c ← hexValue c
  let d ← hexValue d
  pure (((a * 16 + b) * 16 + c) * 16 + d)

/-- The character a one-letter escape stands for. -/
def simpleEscape : Char → Option Char
  | '"' => some '"'
  | '\\' => some '\\'
  | '/' => some '/'
  | 'b' => some '\x08'
  | 'f' => some '\x0c'
  | 'n' => some '\n'
  | 'r' => some '\r'
  | 't' => some '\t'
  | _ => none

/-- A leading surrogate of UTF-16. -/
def isLeadingSurrogate (unit : Nat) : Bool := 0xD800 ≤ unit && unit ≤ 0xDBFF

/-- A trailing surrogate of UTF-16. -/
def isTrailingSurrogate (unit : Nat) : Bool := 0xDC00 ≤ unit && unit ≤ 0xDFFF

/-- The body of a string after its opening quote: the characters it denotes and
what follows the closing quote. A trailing surrogate alone, a leading one not
followed by a `\u` trailing one, an unknown escape, a control character and the
end of the input are errors. -/
def parseStringBody : List Char → Option (List Char × List Char)
  | [] => none
  | '"' :: rest => some ([], rest)
  | '\\' :: 'u' :: a :: b :: c :: d :: rest =>
    match hexEscape a b c d with
    | none => none
    | some unit =>
      if isTrailingSurrogate unit then none
      else if isLeadingSurrogate unit then
        match rest with
        | '\\' :: 'u' :: e :: f :: g :: h :: rest =>
          match hexEscape e f g h with
          | some trailing =>
            if isTrailingSurrogate trailing then
              (parseStringBody rest).map fun (chars, rest) =>
                (Char.ofNat (0x10000 + (unit - 0xD800) * 0x400 + (trailing - 0xDC00)) :: chars, rest)
            else none
          | none => none
        | _ => none
      else (parseStringBody rest).map fun (chars, rest) => (Char.ofNat unit :: chars, rest)
  | '\\' :: e :: rest =>
    match simpleEscape e with
    | some c => (parseStringBody rest).map fun (chars, rest) => (c :: chars, rest)
    | none => none
  | c :: rest =>
    if c.toNat < 32 then none
    else (parseStringBody rest).map fun (chars, rest) => (c :: chars, rest)

/-- The value of a run of decimal digits. -/
def digitsValue (digits : List Char) : Nat :=
  digits.foldl (fun value c => 10 * value + (c.toNat - 48)) 0

/-- The integer part of a number: `0` not followed by a digit, or a nonzero
digit and the digits after it. -/
def parseIntegerPart : List Char → Option (List Char × List Char)
  | '0' :: rest =>
    match rest with
    | c :: _ => if c.isDigit then none else some (['0'], rest)
    | [] => some (['0'], [])
  | c :: rest =>
    if c.isDigit then some (c :: (rest.span Char.isDigit).1, (rest.span Char.isDigit).2)
    else none
  | [] => none

/-- An optional exponent: `e` or `E`, an optional sign, and at least one
digit. -/
def parseExponent : List Char → Option (List Char × List Char)
  | e :: rest =>
    if e = 'e' ∨ e = 'E' then
      let (sign, rest) := match rest with
        | '+' :: rest => (['+'], rest)
        | '-' :: rest => (['-'], rest)
        | rest => ([], rest)
      match rest.span Char.isDigit with
      | ([], _) => none
      | (digits, rest) => some (e :: sign ++ digits, rest)
    else some ([], e :: rest)
  | [] => some ([], [])

/-- An optional fraction, a point and at least one digit, then an optional
exponent. -/
def parseFraction : List Char → Option (List Char × List Char)
  | '.' :: rest =>
    match rest.span Char.isDigit with
    | ([], _) => none
    | (digits, rest) => (parseExponent rest).map fun (exponent, rest) =>
        ('.' :: digits ++ exponent, rest)
  | rest => parseExponent rest

/-- What a number literal becomes: an integer that fits a `u64`, or a negative
one that fits an `i64`, is an integer; anything else is an `f64`, `-0`
included. -/
def numberOf (negative : Bool) (integer fraction : List Char) : JsonNumber :=
  let literal : String := ⟨(if negative then ['-'] else []) ++ integer ++ fraction⟩
  if fraction = [] then
    if negative then
      if 1 ≤ digitsValue integer ∧ digitsValue integer ≤ 2 ^ 63 then
        .negInt (-(digitsValue integer : Int))
      else .float literal
    else if digitsValue integer ≤ u64Max then .posInt (digitsValue integer)
    else .float literal
  else .float literal

/-- A number after its optional minus sign. -/
def parseNumber (negative : Bool) (input : List Char) : Option (JsonNumber × List Char) := do
  let (integer, rest) ← parseIntegerPart input
  let (fraction, rest) ← parseFraction rest
  pure (numberOf negative integer fraction, rest)

/-- `BTreeMap::insert`: entries stay sorted by key, and a key already present
takes the new value. Keys compare as `str` does, character by character in code
point order. -/
def insertEntry (key : String) (value : Json) : List (String × Json) → List (String × Json)
  | [] => [(key, value)]
  | (other, old) :: entries =>
    if key.toList < other.toList then (key, value) :: (other, old) :: entries
    else if key = other then (key, value) :: entries
    else (other, old) :: insertEntry key value entries

/-- The map an object's members build, in the order they were read. -/
def buildMap (members : List (String × Json)) : List (String × Json) :=
  members.foldl (fun entries member => insertEntry member.1 member.2 entries) []

/-- The items of an array after the first: a comma and an item, again and
again, until the closing bracket. `item` reads one value. -/
def parseItems (item : List Char → Option (Json × List Char)) :
    Nat → List Char → Option (List Json × List Char)
  | 0, _ => none
  | fuel + 1, input =>
    match skipWhitespace input with
    | ']' :: rest => some ([], rest)
    | ',' :: rest => do
      let (first, rest) ← item rest
      let (items, rest) ← parseItems item fuel rest
      pure (first :: items, rest)
    | _ => none

/-- One member of an object: a string key, a colon and a value read by
`value`. -/
def parseMember (value : List Char → Option (Json × List Char)) (input : List Char) :
    Option ((String × Json) × List Char) :=
  match skipWhitespace input with
  | '"' :: rest => do
    let (key, rest) ← parseStringBody rest
    match skipWhitespace rest with
    | ':' :: rest => do
      let (read, rest) ← value rest
      pure ((⟨key⟩, read), rest)
    | _ => none
  | _ => none

/-- The members of an object after the first: a comma and a member, again and
again, until the closing brace. -/
def parseMembers (value : List Char → Option (Json × List Char)) :
    Nat → List Char → Option (List (String × Json) × List Char)
  | 0, _ => none
  | fuel + 1, input =>
    match skipWhitespace input with
    | '}' :: rest => some ([], rest)
    | ',' :: rest => do
      let (member, rest) ← parseMember value rest
      let (members, rest) ← parseMembers value fuel rest
      pure (member :: members, rest)
    | _ => none

/-- A value after optional whitespace, with `depth` levels of nesting left
(`remaining_depth`) and `fuel` bounding the recursion. -/
def parseValue : Nat → Nat → List Char → Option (Json × List Char)
  | 0, _, _ => none
  | fuel + 1, depth, input =>
    match skipWhitespace input with
    | 'n' :: 'u' :: 'l' :: 'l' :: rest => some (.null, rest)
    | 't' :: 'r' :: 'u' :: 'e' :: rest => some (.bool true, rest)
    | 'f' :: 'a' :: 'l' :: 's' :: 'e' :: rest => some (.bool false, rest)
    | '"' :: rest => (parseStringBody rest).map fun (chars, rest) => (.string ⟨chars⟩, rest)
    | '-' :: rest => (parseNumber true rest).map fun (number, rest) => (.number number, rest)
    | '[' :: rest =>
      if depth ≤ 1 then none
      else match skipWhitespace rest with
        | ']' :: rest => some (.array [], rest)
        | rest => do
          let (first, rest) ← parseValue fuel (depth - 1) rest
          let (items, rest) ← parseItems (parseValue fuel (depth - 1)) fuel rest
          pure (.array (first :: items), rest)
    | '{' :: rest =>
      if depth ≤ 1 then none
      else match skipWhitespace rest with
        | '}' :: rest => some (.object [], rest)
        | rest => do
          let (first, rest) ← parseMember (parseValue fuel (depth - 1)) rest
          let (members, rest) ← parseMembers (parseValue fuel (depth - 1)) fuel rest
          pure (.object (buildMap (first :: members)), rest)
    | c :: rest =>
      if c.isDigit then (parseNumber false (c :: rest)).map fun (number, rest) => (.number number, rest)
      else none
    | [] => none

/-- `serde_json::from_str::<Value>`: one value, then nothing but whitespace;
the nesting limit is 128. -/
def Json.fromStr (text : String) : Option Json :=
  match parseValue (text.length + 1) 128 text.toList with
  | some (value, rest) => if skipWhitespace rest = [] then some value else none
  | none => none

example : Json.fromStr " [1, -2, \"a\\u00e9\", null] " =
    some (.array [.number (.posInt 1), .number (.negInt (-2)), .string "aé", .null]) := rfl

example : Json.fromStr "[1,]" = none := rfl

end Parser

end Pifp.Indexer
