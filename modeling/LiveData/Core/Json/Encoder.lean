import LiveData.Core.Json.Scanner

/-!
# The JSON encoder

`json.dumps` on a flat object with `ensure_ascii=False` and compact separators: quotes,
backslashes and control characters are escaped, all other characters are written as
they are.
-/

namespace LiveData.Json

/-- A scalar of a flat object. -/
inductive Scalar (F : Type) where
  | null
  | float (x : F)
  | string (s : Str)
  deriving DecidableEq, Repr

/-- The value a scalar is read back as, with its float reread from its text. -/
def Scalar.toValue {F : Type} (decoder : Decoder F) (floatRepr : F → Str) : Scalar F → Value F
  | .null => .null
  | .float x => .float (decoder.parseFloat (floatRepr x))
  | .string s => .string s

@[simp] theorem Scalar.toValue_string {F : Type} (decoder : Decoder F) (floatRepr : F → Str)
    (s : Str) : (Scalar.string s).toValue decoder floatRepr = .string s := rfl

/-- The letter that escapes a character. -/
def shortEscape (c : Nat) : Option Nat :=
  List.lookup c [(34, 34), (92, 92), (8, 98), (12, 102), (10, 110), (13, 114), (9, 116)]

/-- A lower-case hexadecimal digit. -/
def hexDigit (n : Nat) : Nat := if n < 10 then 48 + n else 87 + n

/-- One character of a string literal. -/
def encodeChar (c : Nat) : Str :=
  match shortEscape c with
  | some e => [92, e]
  | none => if c < 32 then [92, 117, 48, 48, hexDigit (c / 16), hexDigit (c % 16)] else [c]

/-- A string literal. -/
def encodeString (s : Str) : Str := 34 :: (s.flatMap encodeChar ++ [34])

variable {F : Type} (floatRepr : F → Str)

/-- A scalar; floats are written by `float.__repr__`. -/
def encodeScalar : Scalar F → Str
  | .null => str "null"
  | .float x => floatRepr x
  | .string s => encodeString s

/-- A key and its value. -/
def encodeMember (member : Str × Scalar F) : Str :=
  encodeString member.1 ++ 58 :: encodeScalar floatRepr member.2

/-- `json.dumps` of a flat object. -/
def dumps (members : List (Str × Scalar F)) : Str :=
  123 :: (List.intercalate [44] (members.map (encodeMember floatRepr)) ++ [125])

end LiveData.Json
