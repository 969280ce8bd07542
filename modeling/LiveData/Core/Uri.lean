import Mathlib.Data.List.Basic

/-!
# Percent-encoding of path segments

A decoded path segment is a list of Unicode scalar values. `encodeURIComponent` keeps
the unreserved marks, the dot among them, and writes every other character as its
UTF-8 bytes in upper-case hexadecimal.
-/

namespace LiveData.Uri

/-- The characters `encodeURIComponent` leaves unescaped. -/
def isUnescaped (c : Char) : Bool := c.isAlphanum || c ∈ "-_.!~*'()".toList

/-- One upper-case hexadecimal digit. -/
def hexDigit (n : Nat) : Char := Char.ofNat (if n < 10 then 48 + n else 55 + n)

/-- One byte as a percent sign and two hexadecimal digits. -/
def percentByte (b : UInt8) : List Char := ['%', hexDigit (b.toNat / 16), hexDigit (b.toNat % 16)]

/-- The escape of one character. -/
def encodeChar (c : Char) : List Char :=
  if isUnescaped c then [c] else (String.utf8EncodeChar c).flatMap percentByte

/-- The escape of one path segment. -/
def encodeURIComponent (s : List Char) : List Char := s.flatMap encodeChar

/-- Segments joined by slashes. -/
def joinSlash (segments : List (List Char)) : List Char := List.intercalate ['/'] segments

@[simp] theorem joinSlash_nil : joinSlash [] = [] := rfl

@[simp] theorem joinSlash_singleton (s : List Char) : joinSlash [s] = s := by simp [joinSlash]

/-- Two segments are joined by one slash. -/
theorem joinSlash_pair (s t : List Char) : joinSlash [s, t] = s ++ '/' :: t := by
  simp [joinSlash, List.intercalate]

end LiveData.Uri
