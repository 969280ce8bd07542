import LiveData.Core.Dict
import LiveData.Core.Numeral

/-!
# The JSON scanner

`json.loads` on text: one pass from the left that stops at its first error. Besides bad
input it gives up on an integer literal with too many digits and on values nested too
deeply; both limits are parameters. Floats are read by a parameter from their text.
-/

namespace LiveData.Json

/-- A JSON value; an object keeps its items in insertion order. -/
inductive Value (F : Type) where
  | null
  | bool (b : Bool)
  | int (n : Int)
  | float (x : F)
  | string (s : Str)
  | array (items : List (Value F))
  | object (items : List (Str × Value F))

/-- Exceptions of the decoder. -/
inductive DecodeError where
  | jsonDecodeError
  | valueError
  | recursionError
  deriving DecidableEq, Repr

/-- How floats are read, the digits an integer literal may have, and how deep values may
nest. -/
structure Decoder (F : Type) where
  parseFloat : Str → F
  maxStrDigits : Nat
  recursionLimit : Nat

/-- Insignificant characters. -/
def isWhitespace (c : Nat) : Bool := c == 32 || c == 9 || c == 10 || c == 13

/-- The text after its leading whitespace. -/
def skipWhitespace (s : Str) : Str := (spanRun isWhitespace s).2

/-- The value of a hexadecimal digit. -/
def hexValue (c : Nat) : Option Nat :=
  if 48 ≤ c ∧ c ≤ 57 then some (c - 48)
  else if 97 ≤ c ∧ c ≤ 102 then some (c - 87)
  else if 65 ≤ c ∧ c ≤ 70 then some (c - 55)
  else none

/-- The character of a one-letter escape. -/
def simpleEscape (c : Nat) : Option Nat :=
  List.lookup c [(34, 34), (92, 92), (47, 47), (98, 8), (102, 12), (110, 10), (114, 13), (116, 9)]

/-- A code unit of a string literal and how it was written. -/
inductive StringUnit where
  | literal (c : Nat)
  | escaped (c : Nat)
  deriving DecidableEq, Repr

/-- Where the scan of a string literal stands: `more` hexadecimal digits follow the next. -/
inductive StringMode where
  | plain
  | escape
  | unicode (more : Nat) (value : Nat)
  deriving DecidableEq, Repr

/-- Put a unit in front of the units scanned after it. -/
def pushUnit (u : StringUnit) (scanned : Option (List StringUnit × Str)) :
    Option (List StringUnit × Str) :=
  scanned.map fun p => (u :: p.1, p.2)

/-- The units of a string literal up to its closing quote, and the text behind it. -/
def scanUnits : StringMode → Str → Option (List StringUnit × Str)
  | _, [] => none
  | .plain, c :: rest =>
    if c = 34 then some ([], rest)
    else if c = 92 then scanUnits .escape rest
    else if c < 32 then none
    else pushUnit (.literal c) (scanUnits .plain rest)
  | .escape, c :: rest =>
    if c = 117 then scanUnits (.unicode 3 0) rest
    else
      match simpleEscape c with
      | some u => pushUnit (.escaped u) (scanUnits .plain rest)
      | none => none
  | .unicode more value, c :: rest =>
    match hexValue c with
    | none => none
    | some h =>
      match more with
      | 0 => pushUnit (.escaped (16 * value + h)) (scanUnits .plain rest)
      | k + 1 => scanUnits (.unicode k (16 * value + h)) rest

/-- The first half of a surrogate pair. -/
def isHighSurrogate (c : Nat) : Bool := 0xD800 ≤ c && c ≤ 0xDBFF

/-- The second half of a surrogate pair. -/
def isLowSurrogate (c : Nat) : Bool := 0xDC00 ≤ c && c ≤ 0xDFFF

/-- Two adjacent escapes that form a surrogate pair are one character. -/
def joinSurrogates : List StringUnit → Str
  | [] => []
  | .literal c :: units => c :: joinSurrogates units
  | [.escaped c] => [c]
  | .escaped c :: .literal d :: units => c :: d :: joinSurrogates units
  | .escaped c :: .escaped d :: units =>
    if isHighSurrogate c && isLowSurrogate d then
      (0x10000 + (c - 0xD800) * 0x400 + (d - 0xDC00)) :: joinSurrogates units
    else c :: joinSurrogates (.escaped d :: units)

/-- The string literal behind its opening quote. -/
def scanString (s : Str) : Except DecodeError (Str × Str) :=
  match scanUnits .plain s with
  | some (units, rest) => .ok (joinSurrogates units, rest)
  | none => .error .jsonDecodeError

/-- The integer digits at the front: a zero alone, or a run that starts with none. -/
def scanInteger : Str → Option (Str × Str)
  | [] => none
  | c :: rest =>
    if c = 48 then some ([48], rest)
    else if isDigit c then some (c :: (spanRun isDigit rest).1, (spanRun isDigit rest).2)
    else none

/-- A point and the digits behind it, when there are any. -/
def scanFraction : Str → Str × Str
  | [] => ([], [])
  | c :: rest =>
    if c = 46 ∧ (spanRun isDigit rest).1 ≠ [] then
      (46 :: (spanRun isDigit rest).1, (spanRun isDigit rest).2)
    else ([], c :: rest)

/-- The sign of an exponent. -/
def scanSign : Str → Str × Str
  | [] => ([], [])
  | c :: rest => if c = 43 ∨ c = 45 then ([c], rest) else ([], c :: rest)

/-- An exponent, when it has a digit. -/
def scanExponent : Str → Str × Str
  | [] => ([], [])
  | c :: rest =>
    let sign := scanSign rest
    let digits := spanRun isDigit sign.2
    if (c = 69 ∨ c = 101) ∧ digits.1 ≠ [] then (c :: (sign.1 ++ digits.1), digits.2)
    else ([], c :: rest)

section

variable {F : Type} (decoder : Decoder F)

/-- A number without its sign: an integer, or a float read from its whole text. -/
def scanUnsigned (negative : Bool) (s : Str) : Except DecodeError (Value F × Str) :=
  match scanInteger s with
  | none => .error .jsonDecodeError
  | some (integer, afterInteger) =>
    let fraction := scanFraction afterInteger
    let exponent := scanExponent fraction.2
    if fraction.1 = [] ∧ exponent.1 = [] then
      if decoder.maxStrDigits < integer.length then .error .valueError
      else
        let n : Int := digitsValue integer
        .ok (.int (if negative then -n else n), exponent.2)
    else
      let text := integer ++ fraction.1 ++ exponent.1
      .ok (.float (decoder.parseFloat (if negative then 45 :: text else text)), exponent.2)

/-- `_match_number`. -/
def matchNumber : Str → Except DecodeError (Value F × Str)
  | [] => .error .jsonDecodeError
  | c :: rest =>
    if c = 45 then scanUnsigned decoder true rest else scanUnsigned decoder false (c :: rest)

/-- The constants and their values. -/
def constants : List (Str × Value F) :=
  [(str "null", .null), (str "true", .bool true), (str "false", .bool false),
    (str "NaN", .float (decoder.parseFloat (str "NaN"))),
    (str "Infinity", .float (decoder.parseFloat (str "Infinity"))),
    (str "-Infinity", .float (decoder.parseFloat (str "-Infinity")))]

/-- The text behind a prefix. -/
def stripPrefix : Str → Str → Option Str
  | [], s => some s
  | _ :: _, [] => none
  | c :: word, d :: s => if c = d then stripPrefix word s else none

/-- A constant at the front. -/
def scanConstant (s : Str) : Option (Value F × Str) :=
  (constants decoder).firstM fun p => (stripPrefix p.1 s).map fun rest => (p.2, rest)

end

section

variable {F : Type}

/-- Items separated by commas, up to the character that closes them. -/
def parseItems {α : Type} (close : Nat) (item : Str → Except DecodeError (α × Str)) :
    Nat → Str → Except DecodeError (List α × Str)
  | 0, _ => .error .jsonDecodeError
  | fuel + 1, s => do
    let (a, s) ← item s
    match skipWhitespace s with
    | [] => .error .jsonDecodeError
    | c :: rest =>
      if c = close then .ok ([a], rest)
      else if c = 44 then do
        let (items, s) ← parseItems close item fuel (skipWhitespace rest)
        .ok (a :: items, s)
      else .error .jsonDecodeError

/-- The items of a container behind its opening character, if it has any. -/
def parseContainer {α : Type} (close : Nat) (item : Str → Except DecodeError (α × Str))
    (s : Str) : Except DecodeError (List α × Str) :=
  match skipWhitespace s with
  | [] => .error .jsonDecodeError
  | c :: rest =>
    if c = close then .ok ([], rest) else parseItems close item (s.length + 1) (c :: rest)

/-- One member of an object: a key, a colon and a value. -/
def parseMember (scan : Str → Except DecodeError (Value F × Str)) :
    Str → Except DecodeError ((Str × Value F) × Str)
  | [] => .error .jsonDecodeError
  | c :: rest =>
    if c = 34 then do
      let (key, s) ← scanString rest
      match skipWhitespace s with
      | [] => .error .jsonDecodeError
      | d :: rest =>
        if d = 58 then do
          let (v, s) ← scan (skipWhitespace rest)
          .ok ((key, v), s)
        else .error .jsonDecodeError
    else .error .jsonDecodeError

/-- `_parse_array`, behind the opening bracket. -/
def parseArray (scan : Str → Except DecodeError (Value F × Str)) (s : Str) :
    Except DecodeError (Value F × Str) := do
  let (items, s) ← parseContainer 93 scan s
  .ok (.array items, s)

/-- `_parse_object`, behind the opening brace. -/
def parseObject (scan : Str → Except DecodeError (Value F × Str)) (s : Str) :
    Except DecodeError (Value F × Str) := do
  let (items, s) ← parseContainer 125 (parseMember scan) s
  .ok (.object (Dict.ofItems items), s)

variable (decoder : Decoder F)

/-- One value at the front, with what reads the containers. -/
def scanTerm (array object : Str → Except DecodeError (Value F × Str)) :
    Str → Except DecodeError (Value F × Str)
  | [] => .error .jsonDecodeError
  | c :: rest =>
    if c = 34 then do
      let (text, s) ← scanString rest
      .ok (.string text, s)
    else if c = 123 then object rest
    else if c = 91 then array rest
    else
      match scanConstant decoder (c :: rest) with
      | some p => .ok p
      | none => matchNumber decoder (c :: rest)

/-- `scan_once`: entering a container uses up one level. -/
def scanOnce : Nat → Str → Except DecodeError (Value F × Str)
  | 0 => scanTerm decoder (fun _ => .error .recursionError) (fun _ => .error .recursionError)
  | depth + 1 =>
    scanTerm decoder (parseArray (scanOnce depth)) (parseObject (scanOnce depth))

/-- `json.loads`: one value, surrounded by whitespace at most, and no byte order mark. -/
def loads (s : Str) : Except DecodeError (Value F) :=
  if s.head? = some 0xFEFF then .error .jsonDecodeError
  else do
    let (v, rest) ← scanOnce decoder decoder.recursionLimit (skipWhitespace s)
    if skipWhitespace rest = [] then .ok v else .error .jsonDecodeError

end

end LiveData.Json
