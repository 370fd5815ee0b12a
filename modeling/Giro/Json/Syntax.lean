import Giro.Text.Utf8

/-!
# JSON at the level of bytes

Blanks, texts, words, and passing over a value that nobody wants. A text can be read, which decodes
its escapes and needs valid surrogate pairs and valid UTF-8, or passed over, which only finds its
end. A reader that fails says where it stopped, for whoever wants to go on from there. Passing over
keeps its open brackets in a list, so values may be nested to any depth.
-/

namespace Giro.Json

open Text

inductive SyntaxError where
  | endInValue
  | endInObject
  | endInList
  | endInText
  | expectedValue
  | expectedWord
  | expectedColon
  | expectedCommaOrBrace
  | expectedCommaOrBracket
  | keyNotText
  | trailingComma
  | trailingCharacters
  | badNumber
  | numberOutOfRange
  | badEscape
  | controlCharacter
  | loneSurrogate
  | endOfEscape
  | badUtf8
  | tooDeep
  deriving DecidableEq

def SyntaxError.message : SyntaxError → String
  | .endInValue => "EOF while parsing a value"
  | .endInObject => "EOF while parsing an object"
  | .endInList => "EOF while parsing a list"
  | .endInText => "EOF while parsing a string"
  | .expectedValue => "expected value"
  | .expectedWord => "expected ident"
  | .expectedColon => "expected `:`"
  | .expectedCommaOrBrace => "expected `,` or `\x7d`"
  | .expectedCommaOrBracket => "expected `,` or `]`"
  | .keyNotText => "key must be a string"
  | .trailingComma => "trailing comma"
  | .trailingCharacters => "trailing characters"
  | .badNumber => "invalid number"
  | .numberOutOfRange => "number out of range"
  | .badEscape => "invalid escape"
  | .controlCharacter => "control character (\\u0000-\\u001F) found while parsing a string"
  | .loneSurrogate => "lone leading surrogate in hex escape"
  | .endOfEscape => "unexpected end of hex escape"
  | .badUtf8 => "invalid unicode code point"
  | .tooDeep => "recursion limit exceeded"

/-- Why and where reading stopped. -/
structure Stop where
  why : SyntaxError
  rest : List UInt8

def isBlankByte (b : UInt8) : Bool := b == 32 || b == 10 || b == 9 || b == 13

def skipBlanks : List UInt8 → List UInt8
  | [] => []
  | b :: rest => if isBlankByte b then skipBlanks rest else b :: rest

/-! ## Texts -/

def hexValue? (b : UInt8) : Option Nat :=
  if 48 ≤ b ∧ b ≤ 57 then some (b.toNat - 48)
  else if 97 ≤ b ∧ b ≤ 102 then some (b.toNat - 87)
  else if 65 ≤ b ∧ b ≤ 70 then some (b.toNat - 55)
  else none

/-- What follows after part of a text, no longer than what was there before. -/
abbrev Rest (input : List UInt8) := { rest : List UInt8 // rest.length ≤ input.length }

/-- Four hexadecimal digits. -/
def readUnit (input : List UInt8) : Except Stop (Nat × Rest input) :=
  match input with
  | p :: q :: r :: s :: rest =>
    match hexValue? p, hexValue? q, hexValue? r, hexValue? s with
    | some p, some q, some r, some s =>
      .ok (((p * 16 + q) * 16 + r) * 16 + s, ⟨rest, by simp; omega⟩)
    | _, _, _, _ => .error ⟨.badEscape, rest⟩
  | _ => .error ⟨.endInText, []⟩

/-- The bytes of a code point that is no surrogate. -/
def encodePoint (n : Nat) : List UInt8 :=
  if n < 0x80 then [UInt8.ofNat n]
  else if n < 0x800 then [UInt8.ofNat (0xc0 + n / 64), UInt8.ofNat (0x80 + n % 64)]
  else if n < 0x10000 then
    [UInt8.ofNat (0xe0 + n / 4096), UInt8.ofNat (0x80 + n / 64 % 64), UInt8.ofNat (0x80 + n % 64)]
  else
    [UInt8.ofNat (0xf0 + n / 262144), UInt8.ofNat (0x80 + n / 4096 % 64),
      UInt8.ofNat (0x80 + n / 64 % 64), UInt8.ofNat (0x80 + n % 64)]

/-- A code point in one unit or in a pair of surrogates. What stands where the second unit should
start is taken before it is refused. -/
def readPoint (input : List UInt8) : Except Stop (List UInt8 × Rest input) :=
  match readUnit input with
  | .error e => .error e
  | .ok (first, ⟨rest, hrest⟩) =>
    if 0xdc00 ≤ first ∧ first ≤ 0xdfff then .error ⟨.loneSurrogate, rest⟩
    else if first < 0xd800 ∨ 0xdbff < first then .ok (encodePoint first, ⟨rest, hrest⟩)
    else
      match rest with
      | 92 :: 117 :: more =>
        match readUnit more with
        | .error e => .error e
        | .ok (second, ⟨last, hlast⟩) =>
          if second < 0xdc00 ∨ 0xdfff < second then .error ⟨.loneSurrogate, last⟩
          else
            .ok (encodePoint ((first - 0xd800) * 1024 + (second - 0xdc00) + 0x10000),
              ⟨last, by simp only [List.length_cons] at hrest; omega⟩)
      | [] | [92] => .error ⟨.endInText, []⟩
      | 92 :: _ :: more => .error ⟨.endOfEscape, more⟩
      | _ :: more => .error ⟨.endOfEscape, more⟩

/-- The byte that a letter after a backslash stands for. -/
def unescape? (letter : UInt8) : Option UInt8 :=
  if letter = 34 ∨ letter = 92 ∨ letter = 47 then some letter
  else if letter = 98 then some 8
  else if letter = 102 then some 12
  else if letter = 110 then some 10
  else if letter = 114 then some 13
  else if letter = 116 then some 9
  else none

/-- What follows a backslash. -/
def readEscape (input : List UInt8) : Except Stop (List UInt8 × Rest input) :=
  match input with
  | [] => .error ⟨.endInText, []⟩
  | letter :: rest =>
    match unescape? letter with
    | some b => .ok ([b], ⟨rest, by simp⟩)
    | none =>
      if letter = 117 then
        match readPoint rest with
        | .error e => .error e
        | .ok (bytes, ⟨more, h⟩) => .ok (bytes, ⟨more, by simp only [List.length_cons]; omega⟩)
      else .error ⟨.badEscape, rest⟩

/-- Reads up to the closing quote; `done` holds the bytes read so far, last first. -/
def readBytes (done : List UInt8) : List UInt8 → Except Stop (List UInt8 × List UInt8)
  | [] => .error ⟨.endInText, []⟩
  | b :: rest =>
    if b = 34 then .ok (done.reverse, rest)
    else if b = 92 then
      match readEscape rest with
      | .error e => .error e
      | .ok (bytes, ⟨more, _⟩) => readBytes (bytes.reverse ++ done) more
    else if b < 32 then .error ⟨.controlCharacter, rest⟩
    else readBytes (b :: done) rest
  termination_by input => input.length

/-- Reads a text whose opening quote has been taken. Bad UTF-8 is found at the closing quote. -/
def readText (input : List UInt8) : Except Stop (String × List UInt8) :=
  match readBytes [] input with
  | .error e => .error e
  | .ok (bytes, rest) =>
    match ofUtf8? bytes with
    | some s => .ok (s, rest)
    | none => .error ⟨.badUtf8, rest⟩

/-- Passes over an escape without asking what it stands for. -/
def skipEscape (input : List UInt8) : Except SyntaxError (Rest input) :=
  match input with
  | [] => .error .endInText
  | letter :: rest =>
    if (unescape? letter).isSome then .ok ⟨rest, by simp⟩
    else if letter = 117 then
      match readUnit rest with
      | .error e => .error e.why
      | .ok (_, ⟨more, h⟩) => .ok ⟨more, by simp only [List.length_cons]; omega⟩
    else .error .badEscape

/-- Passes over a text whose opening quote has been taken. -/
def skipText : List UInt8 → Except SyntaxError (List UInt8)
  | [] => .error .endInText
  | b :: rest =>
    if b = 34 then .ok rest
    else if b = 92 then
      match skipEscape rest with
      | .error e => .error e
      | .ok ⟨more, _⟩ => skipText more
    else if b < 32 then .error .controlCharacter
    else skipText rest
  termination_by input => input.length

/-! ## Words and numbers -/

/-- Takes the bytes of a word. -/
def readWord : List UInt8 → List UInt8 → Except Stop (List UInt8)
  | [], rest => .ok rest
  | _ :: _, [] => .error ⟨.endInValue, []⟩
  | w :: word, b :: rest => if w = b then readWord word rest else .error ⟨.expectedWord, rest⟩

def isDigitByte (b : UInt8) : Bool := 48 ≤ b && b ≤ 57

/-- Splits off the digits at the front. -/
def spanDigits : List UInt8 → List Nat × List UInt8
  | [] => ([], [])
  | b :: rest =>
    if isDigitByte b then
      let (digits, more) := spanDigits rest
      ((b.toNat - 48) :: digits, more)
    else ([], b :: rest)

/-- The parts of a number as they are written. -/
structure Numeral where
  isNegative : Bool
  whole : List Nat
  fraction : List Nat
  /-- Sign and digits of the exponent. -/
  exponent : Option (Bool × List Nat)

def readWhole : List UInt8 → Except Stop (List Nat × List UInt8)
  | [] => .error ⟨.endInValue, []⟩
  | 48 :: rest =>
    match rest with
    | b :: _ => if isDigitByte b then .error ⟨.badNumber, rest⟩ else .ok ([0], rest)
    | [] => .ok ([0], [])
  | b :: rest => if isDigitByte b then .ok (spanDigits (b :: rest)) else .error ⟨.badNumber, rest⟩

def readFraction : List UInt8 → Except Stop (List Nat × List UInt8)
  | 46 :: rest =>
    match spanDigits rest with
    | ([], []) => .error ⟨.endInValue, []⟩
    | ([], more) => .error ⟨.badNumber, more⟩
    | (digits, more) => .ok (digits, more)
  | rest => .ok ([], rest)

def readExponentDigits (isNegative : Bool) (rest : List UInt8) :
    Except Stop (Option (Bool × List Nat) × List UInt8) :=
  match spanDigits rest with
  | ([], []) => .error ⟨.endInValue, []⟩
  | ([], _ :: more) => .error ⟨.badNumber, more⟩
  | (digits, more) => .ok (some (isNegative, digits), more)

def readExponent : List UInt8 → Except Stop (Option (Bool × List Nat) × List UInt8)
  | b :: rest =>
    if b = 101 ∨ b = 69 then
      match rest with
      | 43 :: rest => readExponentDigits false rest
      | 45 :: rest => readExponentDigits true rest
      | rest => readExponentDigits false rest
    else .ok (none, b :: rest)
  | [] => .ok (none, [])

def readNumeral (input : List UInt8) : Except Stop (Numeral × List UInt8) := do
  let (isNegative, input) := match input with
    | 45 :: rest => (true, rest)
    | rest => (false, rest)
  let (whole, rest) ← readWhole input
  let (fraction, rest) ← readFraction rest
  let (exponent, rest) ← readExponent rest
  return (⟨isNegative, whole, fraction, exponent⟩, rest)

/-! ## Passing over values -/

inductive Bracket where
  | list
  | object

def Bracket.closing : Bracket → UInt8
  | .list => 93
  | .object => 125

def Bracket.endError : Bracket → SyntaxError
  | .list => .endInList
  | .object => .endInObject

def Bracket.separatorError : Bracket → SyntaxError
  | .list => .expectedCommaOrBracket
  | .object => .expectedCommaOrBrace

/-- Passes over a value that is neither a list nor an object. -/
def skipScalar (b : UInt8) (rest : List UInt8) : Except SyntaxError (List UInt8) :=
  if b = 34 then skipText rest
  else if b = 110 then (readWord (utf8 "ull") rest).mapError Stop.why
  else if b = 116 then (readWord (utf8 "rue") rest).mapError Stop.why
  else if b = 102 then (readWord (utf8 "alse") rest).mapError Stop.why
  else if b = 45 ∨ isDigitByte b then
    match readNumeral (b :: rest) with
    | .ok (_, rest) => .ok rest
    | .error _ => .error .badNumber
  else .error .expectedValue

/-- Passes over the key of a member and its colon. -/
def skipKey (input : List UInt8) : Except SyntaxError (List UInt8) :=
  match skipBlanks input with
  | [] => .error .endInObject
  | 34 :: rest =>
    match skipText rest with
    | .error e => .error e
    | .ok rest =>
      match skipBlanks rest with
      | [] => .error .endInObject
      | 58 :: rest => .ok rest
      | _ => .error .expectedColon
  | _ => .error .keyNotText

/-- What may come next inside the open brackets. -/
inductive Expect where
  | value
  | afterValue
  | afterOpening

/-- Passes over the rest of a value. Every step but one takes a byte, so twice the length bounds the
steps. -/
def skipWithin : Nat → Expect → List Bracket → List UInt8 → Except SyntaxError (List UInt8)
  | 0, _, _, _ => .error .endInValue
  | fuel + 1, .value, stack, input =>
    match skipBlanks input with
    | [] => .error .endInValue
    | 91 :: rest => skipWithin fuel .afterOpening (.list :: stack) rest
    | 123 :: rest => skipWithin fuel .afterOpening (.object :: stack) rest
    | b :: rest =>
      match skipScalar b rest with
      | .error e => .error e
      | .ok rest => skipWithin fuel .afterValue stack rest
  | _, .afterValue, [], input => .ok input
  | fuel + 1, .afterValue, open_ :: stack, input =>
    match skipBlanks input with
    | [] => .error open_.endError
    | b :: rest =>
      if b = open_.closing then skipWithin fuel .afterValue stack rest
      else if b = 44 then
        match open_ with
        | .list => skipWithin fuel .value (open_ :: stack) rest
        | .object =>
          match skipKey rest with
          | .error e => .error e
          | .ok rest => skipWithin fuel .value (open_ :: stack) rest
      else .error open_.separatorError
  | fuel + 1, .afterOpening, stack, input =>
    match stack with
    | [] => .ok input
    | open_ :: stack =>
      match skipBlanks input with
      | [] => .error open_.endError
      | b :: rest =>
        if b = open_.closing then skipWithin fuel .afterValue stack rest
        else
          match open_ with
          | .list => skipWithin fuel .value (open_ :: stack) (b :: rest)
          | .object =>
            match skipKey (b :: rest) with
            | .error e => .error e
            | .ok rest => skipWithin fuel .value (open_ :: stack) rest

/-- Passes over one value and gives what follows it; `bound` is at least the length of the input. -/
def skipValue (bound : Nat) (input : List UInt8) : Except SyntaxError (List UInt8) :=
  skipWithin (2 * bound + 2) .value [] input

end Giro.Json
