import LiveData.Core.Uri
import Mathlib.Data.List.Infix
import Mathlib.Data.List.TakeWhile

/-!
# The path a URL fetch requests

A fetch parses its URL before it sends anything: the text is cut at the query, split at
both slashes, and dot segments are resolved. Escaped segments come out of percent-decoding
as the UTF-8 of what was escaped, so the only escaped dot segments are the plain ones.
-/

namespace LiveData.Uri

/-- The value of a hexadecimal digit of either case. -/
def hexValue? (c : Char) : Option Nat :=
  if '0' ≤ c ∧ c ≤ '9' then some (c.toNat - 48)
  else if 'A' ≤ c ∧ c ≤ 'F' then some (c.toNat - 55)
  else if 'a' ≤ c ∧ c ≤ 'f' then some (c.toNat - 87)
  else none

/-- The bytes of the UTF-8 encoding. -/
def utf8Bytes (s : List Char) : List UInt8 := s.flatMap String.utf8EncodeChar

/-- Percent-decoding: well-formed escapes become bytes, all else is kept. -/
def percentDecode : List Char → List UInt8
  | [] => []
  | c :: rest =>
    if c = '%' then
      match rest with
      | a :: b :: tail =>
        match hexValue? a, hexValue? b with
        | some x, some y => UInt8.ofNat (16 * x + y) :: percentDecode tail
        | _, _ => 37 :: percentDecode (a :: b :: tail)
      | rest => 37 :: percentDecode rest
    else String.utf8EncodeChar c ++ percentDecode rest

/-- Either slash separates the segments of a path. -/
def isSlash (c : Char) : Bool := c = '/' || c = '\\'

/-- The start of a query or of a fragment. -/
def endsPath (c : Char) : Bool := c = '?' || c = '#'

/-- The controls of ASCII and the space, which are stripped at both ends. -/
def isControlOrSpace (c : Char) : Bool := c.toNat ≤ 32

/-- Tab and newlines, which are removed everywhere. -/
def isTabOrNewline (c : Char) : Bool := c = '\t' || c = '\n' || c = '\r'

/-- What a parser leaves of the ends of a URL. -/
def stripEnds (s : List Char) : List Char :=
  ((s.dropWhile isControlOrSpace).reverse.dropWhile isControlOrSpace).reverse

/-- The text of the path: after scheme and authority, up to the query. -/
def pathText (url : List Char) : List Char :=
  let text := (stripEnds url).filter fun c => !isTabOrNewline c
  let afterScheme := (text.dropWhile (· != ':')).drop 1
  let authority := afterScheme.dropWhile isSlash
  (authority.dropWhile fun c => !(isSlash c || endsPath c)).takeWhile fun c => !endsPath c

/-- The characters a path may not hold as they are. -/
def isPathEncoded (c : Char) : Bool :=
  c.toNat ≤ 32 || 126 < c.toNat || c ∈ "\"#<>?^\x60\x7b\x7d".toList

/-- A character of a path, escaped where it has to be. -/
def encodePathChar (c : Char) : List Char :=
  if isPathEncoded c then (String.utf8EncodeChar c).flatMap percentByte else [c]

/-- The spellings of a dot. -/
def dotForms : List (List Char) := [".".toList, "%2e".toList, "%2E".toList]

/-- The segment that stays where it is. -/
def isSingleDot (s : List Char) : Bool := s ∈ dotForms

/-- The segment that goes up. -/
def isDoubleDot (s : List Char) : Bool := s ∈ dotForms.flatMap fun a => dotForms.map (a ++ ·)

/-- Dot segments resolved from the left. A trailing one leaves an empty segment. -/
def removeDots {α : Type*} (single double : α → Bool) (blank : α) (path : List α) :
    List α → List α
  | [] => path
  | [s] =>
    if double s then path.dropLast ++ [blank]
    else if single s then path ++ [blank]
    else path ++ [s]
  | s :: t :: rest =>
    if double s then removeDots single double blank path.dropLast (t :: rest)
    else if single s then removeDots single double blank path (t :: rest)
    else removeDots single double blank (path ++ [s]) (t :: rest)

/-- The path a fetch of the URL requests. -/
def fetchPath (url : List Char) : List Char :=
  '/' :: joinSlash (removeDots isSingleDot isDoubleDot [] []
    ((((pathText url).drop 1).splitOnP isSlash).map (·.flatMap encodePathChar)))

/-- Dot segments of unescaped names resolved, with the plain spellings only. -/
def resolveDots (names : List (List Char)) : List (List Char) :=
  removeDots (fun s => decide (s = ".".toList)) (fun s => decide (s = "..".toList)) [] [] names

/-! ## Escapes and their decoding -/

/-- UTF-8 determines the text. -/
theorem utf8Bytes_injective : Function.Injective utf8Bytes := by
  intro s t h
  have he : s.utf8Encode = t.utf8Encode := congrArg List.toByteArray h
  have hd := congrArg ByteArray.utf8Decode? he
  rw [List.utf8Decode?_utf8Encode, List.utf8Decode?_utf8Encode] at hd
  simpa using hd

theorem hexValue?_hexDigit {n : Nat} (h : n < 16) : hexValue? (hexDigit n) = some n := by
  have hall : ∀ k < 16, hexValue? (hexDigit k) = some k := by decide
  exact hall n h

theorem isUnescaped_hexDigit {n : Nat} (h : n < 16) : isUnescaped (hexDigit n) = true := by
  have hall : ∀ k < 16, isUnescaped (hexDigit k) = true := by decide
  exact hall n h

/-- Every character but the percent sign stands for itself. -/
theorem percentDecode_cons {c : Char} (h : c ≠ '%') (rest : List Char) :
    percentDecode (c :: rest) = String.utf8EncodeChar c ++ percentDecode rest := by
  rw [percentDecode.eq_def]
  simp only [h, ite_false]

/-- An escaped byte is read back. -/
theorem percentDecode_percentByte (b : UInt8) (rest : List Char) :
    percentDecode (percentByte b ++ rest) = b :: percentDecode rest := by
  have hb : b.toNat < 256 := b.toNat_lt
  have hq : b.toNat / 16 < 16 := by omega
  have hr : b.toNat % 16 < 16 := Nat.mod_lt _ (by omega)
  have hv : 16 * (b.toNat / 16) + b.toNat % 16 = b.toNat := Nat.div_add_mod _ _
  simp only [percentByte, List.cons_append, List.nil_append, percentDecode, ite_true,
    hexValue?_hexDigit hq, hexValue?_hexDigit hr, hv, UInt8.ofNat_toNat]

theorem percentDecode_percentBytes (bytes : List UInt8) (rest : List Char) :
    percentDecode (bytes.flatMap percentByte ++ rest) = bytes ++ percentDecode rest := by
  induction bytes with
  | nil => rfl
  | cons b bytes ih =>
    rw [List.flatMap_cons, List.append_assoc, percentDecode_percentByte, ih, List.cons_append]

/-- An escaped character decodes to its bytes. -/
theorem percentDecode_encodeChar (c : Char) (rest : List Char) :
    percentDecode (encodeChar c ++ rest) = String.utf8EncodeChar c ++ percentDecode rest := by
  unfold encodeChar
  split
  · next h =>
    have hc : c ≠ '%' := by
      rintro rfl
      exact absurd h (by decide)
    exact percentDecode_cons hc rest
  · exact percentDecode_percentBytes _ _

/-- Decoding an escaped segment gives the bytes of what was escaped. -/
theorem percentDecode_encodeURIComponent (s : List Char) :
    percentDecode (encodeURIComponent s) = utf8Bytes s := by
  induction s with
  | nil => rfl
  | cons c s ih =>
    have h := percentDecode_encodeChar c (encodeURIComponent s)
    rw [ih] at h
    simpa only [encodeURIComponent, utf8Bytes, List.flatMap_cons] using h

theorem encodeURIComponent_injective : Function.Injective encodeURIComponent := by
  intro s t h
  apply utf8Bytes_injective
  rw [← percentDecode_encodeURIComponent, h, percentDecode_encodeURIComponent]

/-- What an escaped segment is made of. -/
theorem mem_encodeURIComponent {c : Char} {s : List Char} (h : c ∈ encodeURIComponent s) :
    c = '%' ∨ isUnescaped c = true := by
  obtain ⟨d, _, hd⟩ := List.mem_flatMap.mp h
  unfold encodeChar at hd
  split at hd
  · next hu =>
    right
    rw [List.mem_singleton.mp hd]
    exact hu
  · obtain ⟨b, _, hb⟩ := List.mem_flatMap.mp hd
    have hlt : b.toNat < 256 := b.toNat_lt
    simp only [percentByte, List.mem_cons, List.not_mem_nil, or_false] at hb
    rcases hb with rfl | rfl | rfl
    · exact Or.inl rfl
    · exact Or.inr (isUnescaped_hexDigit (by omega))
    · exact Or.inr (isUnescaped_hexDigit (by omega))

/-- An escaped segment holds no character that is neither unescaped nor a percent sign. -/
theorem not_mem_encodeURIComponent {c : Char} (hp : c ≠ '%') (hu : isUnescaped c = false)
    (s : List Char) : c ∉ encodeURIComponent s := by
  intro h
  rcases mem_encodeURIComponent h with he | he
  · exact hp he
  · rw [hu] at he
    exact Bool.false_ne_true he

/-- Unescaped characters are printable. -/
theorem toNat_of_isUnescaped {c : Char} (h : isUnescaped c = true) :
    33 ≤ c.toNat ∧ c.toNat ≤ 126 := by
  rcases Bool.or_eq_true_iff.mp h with h | hm
  · rcases Bool.or_eq_true_iff.mp h with h | h
    · rcases Bool.or_eq_true_iff.mp h with h | h
      · have hl : 65 ≤ c.toNat ∧ c.toNat ≤ 90 := by
          obtain ⟨hl, hu⟩ := of_decide_eq_true h
          exact ⟨hl, hu⟩
        omega
      · have hl : 97 ≤ c.toNat ∧ c.toNat ≤ 122 := by
          obtain ⟨hl, hu⟩ := Bool.and_eq_true_iff.mp h
          exact ⟨of_decide_eq_true hl, of_decide_eq_true hu⟩
        omega
    · have hl : 48 ≤ c.toNat ∧ c.toNat ≤ 57 := by
        obtain ⟨hl, hu⟩ := Bool.and_eq_true_iff.mp h
        exact ⟨of_decide_eq_true hl, of_decide_eq_true hu⟩
      omega
  · have hall : ("-_.!~*'()".toList.all fun d => decide (33 ≤ d.toNat ∧ d.toNat ≤ 126)) = true :=
      by decide
    exact of_decide_eq_true (List.all_eq_true.mp hall c (of_decide_eq_true hm))

/-- Unescaped characters may stand in a path. -/
theorem isPathEncoded_of_isUnescaped {c : Char} (h : isUnescaped c = true) :
    isPathEncoded c = false := by
  have hb := toNat_of_isUnescaped h
  have hm : c ∉ "\"#<>?^\x60\x7b\x7d".toList := by
    intro hm
    have hall : ("\"#<>?^\x60\x7b\x7d".toList.all fun d => !isUnescaped d) = true := by decide
    have hc := List.all_eq_true.mp hall c hm
    rw [h] at hc
    exact Bool.false_ne_true hc
  have hl : ¬c.toNat ≤ 32 := by omega
  have hu : ¬126 < c.toNat := by omega
  simp only [isPathEncoded, hl, hu, hm, decide_false, Bool.or_self]

/-- A URL parser leaves an escaped segment as it is. -/
theorem flatMap_encodePathChar (s : List Char) :
    (encodeURIComponent s).flatMap encodePathChar = encodeURIComponent s := by
  have h : ∀ c ∈ encodeURIComponent s, encodePathChar c = [c] := by
    intro c hc
    have he : isPathEncoded c = false := by
      rcases mem_encodeURIComponent hc with rfl | hu
      · decide
      · exact isPathEncoded_of_isUnescaped hu
    simp only [encodePathChar, he, Bool.false_eq_true, ite_false]
  calc (encodeURIComponent s).flatMap encodePathChar
      = (encodeURIComponent s).flatMap fun c => [c] := List.flatMap_congr h
    _ = encodeURIComponent s := List.flatMap_singleton' _

/-! ## Dot segments -/

/-- Every spelling of a dot decodes to one. -/
theorem percentDecode_dotForms {s : List Char} (h : s ∈ dotForms) (rest : List Char) :
    percentDecode (s ++ rest) = 46 :: percentDecode rest := by
  simp only [dotForms, List.mem_cons, List.not_mem_nil, or_false] at h
  rcases h with rfl | rfl | rfl
  · exact percentDecode_cons (by decide) rest
  · exact percentDecode_percentByte 46 rest
  · exact percentDecode_percentByte 46 rest

/-- An escaped segment is a single dot only if it was one. -/
theorem isSingleDot_encodeURIComponent (s : List Char) :
    isSingleDot (encodeURIComponent s) = decide (s = ".".toList) := by
  rw [Bool.eq_iff_iff, decide_eq_true_eq]
  constructor
  · intro h
    have hd := percentDecode_dotForms (of_decide_eq_true h) []
    rw [List.append_nil, percentDecode_encodeURIComponent] at hd
    exact utf8Bytes_injective hd
  · rintro rfl
    decide

/-- An escaped segment is a double dot only if it was one. -/
theorem isDoubleDot_encodeURIComponent (s : List Char) :
    isDoubleDot (encodeURIComponent s) = decide (s = "..".toList) := by
  rw [Bool.eq_iff_iff, decide_eq_true_eq]
  constructor
  · intro h
    obtain ⟨a, ha, hb⟩ := List.mem_flatMap.mp (of_decide_eq_true h)
    obtain ⟨b, hb, he⟩ := List.mem_map.mp hb
    have hd := percentDecode_encodeURIComponent s
    rw [← he, percentDecode_dotForms ha, ← List.append_nil b, percentDecode_dotForms hb] at hd
    exact utf8Bytes_injective hd.symm
  · rintro rfl
    decide

/-- Resolving commutes with a renaming of segments that keeps the dots apart. -/
theorem removeDots_map {α β : Type*} {single double : α → Bool} {single' double' : β → Bool}
    (f : α → β) (hs : ∀ s, single' (f s) = single s) (hd : ∀ s, double' (f s) = double s)
    (blank : α) (path names : List α) :
    removeDots single' double' (f blank) (path.map f) (names.map f) =
      (removeDots single double blank path names).map f := by
  induction path, names using removeDots.induct single double with
  | case1 path => rfl
  | case2 path s h => simp [removeDots, hd, h]
  | case3 path s h hn => simp [removeDots, hd, hs, h, hn]
  | case4 path s h hn => simp [removeDots, hd, hs, h, hn]
  | case5 path s t rest h ih =>
    simpa only [List.map_cons, removeDots, hd, h, ite_true, List.map_dropLast] using ih
  | case6 path s t rest h hn ih =>
    simpa only [List.map_cons, removeDots, hd, hs, h, hn, Bool.false_eq_true, ite_true,
      ite_false] using ih
  | case7 path s t rest h hn ih =>
    simpa only [List.map_cons, removeDots, hd, hs, h, hn, Bool.false_eq_true, ite_false,
      List.map_append, List.map_nil] using ih

/-- Resolving leaves no list without a segment. -/
theorem removeDots_ne_nil {α : Type*} (single double : α → Bool) (blank : α) {path names : List α}
    (h : names ≠ []) : removeDots single double blank path names ≠ [] := by
  induction path, names using removeDots.induct single double with
  | case1 path => exact absurd rfl h
  | case2 path s hd => simp [removeDots, hd]
  | case3 path s hd hs => simp [removeDots, hd, hs]
  | case4 path s hd hs => simp [removeDots, hd, hs]
  | case5 path s t rest hd ih => simpa [removeDots, hd] using ih
  | case6 path s t rest hd hs ih => simpa [removeDots, hd, hs] using ih
  | case7 path s t rest hd hs ih => simpa [removeDots, hd, hs] using ih

/-- What a resolved list is made of: kept segments, no dots among the new ones. -/
theorem mem_removeDots {α : Type*} {single double : α → Bool} {blank x : α} {path names : List α}
    (h : x ∈ removeDots single double blank path names) :
    x ∈ path ∨ x = blank ∨ (x ∈ names ∧ single x = false ∧ double x = false) := by
  induction path, names using removeDots.induct single double with
  | case1 path => exact Or.inl h
  | case2 path s hd =>
    simp only [removeDots, hd, ite_true, List.mem_append, List.mem_singleton] at h
    exact h.imp List.mem_of_mem_dropLast Or.inl
  | case3 path s hd hs =>
    simp only [removeDots, hd, hs, Bool.false_eq_true, ite_true, ite_false, List.mem_append,
      List.mem_singleton] at h
    exact h.imp id Or.inl
  | case4 path s hd hs =>
    simp only [removeDots, hd, hs, Bool.false_eq_true, ite_false, List.mem_append,
      List.mem_singleton] at h
    rcases h with h | rfl
    · exact Or.inl h
    · exact Or.inr (Or.inr ⟨by simp, by simpa using hs, by simpa using hd⟩)
  | case5 path s t rest hd ih =>
    simp only [removeDots, hd, ite_true] at h
    rcases ih h with h | h | ⟨h, hx⟩
    · exact Or.inl (List.mem_of_mem_dropLast h)
    · exact Or.inr (Or.inl h)
    · exact Or.inr (Or.inr ⟨List.mem_cons_of_mem s h, hx⟩)
  | case6 path s t rest hd hs ih =>
    simp only [removeDots, hd, hs, Bool.false_eq_true, ite_true, ite_false] at h
    rcases ih h with h | h | ⟨h, hx⟩
    · exact Or.inl h
    · exact Or.inr (Or.inl h)
    · exact Or.inr (Or.inr ⟨List.mem_cons_of_mem s h, hx⟩)
  | case7 path s t rest hd hs ih =>
    simp only [removeDots, hd, hs, Bool.false_eq_true, ite_false] at h
    rcases ih h with h | h | ⟨h, hx⟩
    · rcases List.mem_append.mp h with h | h
      · exact Or.inl h
      · rw [List.mem_singleton] at h
        subst h
        exact Or.inr (Or.inr ⟨by simp, by simpa using hs, by simpa using hd⟩)
    · exact Or.inr (Or.inl h)
    · exact Or.inr (Or.inr ⟨List.mem_cons_of_mem s h, hx⟩)

/-- Without dot segments there is nothing to resolve. -/
theorem removeDots_of_forall {α : Type*} {single double : α → Bool} {blank : α}
    {path names : List α} (h : ∀ s ∈ names, single s = false ∧ double s = false) :
    removeDots single double blank path names = path ++ names := by
  induction path, names using removeDots.induct single double with
  | case1 path => exact (List.append_nil path).symm
  | case2 path s hd => exact absurd hd (by simp [(h s (by simp)).2])
  | case3 path s hd hs => exact absurd hs (by simp [(h s (by simp)).1])
  | case4 path s hd hs => simp [removeDots, hd, hs]
  | case5 path s t rest hd ih => exact absurd hd (by simp [(h s (by simp)).2])
  | case6 path s t rest hd hs ih => exact absurd hs (by simp [(h s (by simp)).1])
  | case7 path s t rest hd hs ih =>
    have hr := ih fun x hx => h x (List.mem_cons_of_mem s hx)
    simpa [removeDots, hd, hs] using hr

/-! ## The path of a URL below an origin -/

/-- The address of a server: scheme and authority, with no path. -/
structure Origin where
  scheme : List Char
  authority : List Char
  scheme_special : scheme = "http".toList ∨ scheme = "https".toList
  authority_ne_nil : authority ≠ []
  authority_plain : ∀ c ∈ authority,
    isSlash c = false ∧ endsPath c = false ∧ isControlOrSpace c = false

/-- The origin as it is written. -/
def Origin.text (origin : Origin) : List Char :=
  origin.scheme ++ "://".toList ++ origin.authority

/-- The characters of a path made of escaped segments. -/
def IsPathChar (c : Char) : Prop := c = '/' ∨ c = '%' ∨ isUnescaped c = true

theorem IsPathChar.printable {c : Char} (h : IsPathChar c) : isControlOrSpace c = false := by
  rcases h with rfl | rfl | hu
  · decide
  · decide
  · have hb := (toNat_of_isUnescaped hu).1
    simp only [isControlOrSpace, decide_eq_false_iff_not]
    omega

theorem IsPathChar.not_endsPath {c : Char} (h : IsPathChar c) : endsPath c = false := by
  rcases h with rfl | rfl | hu
  · decide
  · decide
  · have hq : c ≠ '?' := by
      rintro rfl
      exact absurd hu (by decide)
    have hh : c ≠ '#' := by
      rintro rfl
      exact absurd hu (by decide)
    simp only [endsPath, hq, hh, decide_false, Bool.or_self]

/-- The only slash among them is the forward one. -/
theorem IsPathChar.isSlash_eq {c : Char} (h : IsPathChar c) : isSlash c = (c == '/') := by
  rcases h with rfl | rfl | hu
  · decide
  · decide
  · have hf : c ≠ '/' := by
      rintro rfl
      exact absurd hu (by decide)
    have hb : c ≠ '\\' := by
      rintro rfl
      exact absurd hu (by decide)
    simp only [isSlash, hf, hb, decide_false, Bool.or_self, beq_eq_false_iff_ne.mpr hf]

/-- Segments joined by slashes hold slashes and what the segments hold. -/
theorem mem_joinSlash {c : Char} {segments : List (List Char)} (h : c ∈ joinSlash segments) :
    c = '/' ∨ ∃ s ∈ segments, c ∈ s := by
  induction segments with
  | nil => simp at h
  | cons s rest ih =>
    cases rest with
    | nil => exact Or.inr ⟨s, by simp, by simpa using h⟩
    | cons t rest =>
      rw [joinSlash, List.intercalate_cons_cons] at h
      simp only [List.append_assoc, List.mem_append, List.mem_singleton] at h
      rcases h with h | h | h
      · exact Or.inr ⟨s, by simp, h⟩
      · exact Or.inl h
      · rcases ih h with he | ⟨u, hu, hc⟩
        · exact Or.inl he
        · exact Or.inr ⟨u, List.mem_cons_of_mem s hu, hc⟩

theorem isPathChar_joinSlash {c : Char} {names : List (List Char)}
    (h : c ∈ joinSlash (names.map encodeURIComponent)) : IsPathChar c := by
  rcases mem_joinSlash h with he | ⟨s, hs, hc⟩
  · exact Or.inl he
  · obtain ⟨name, _, rfl⟩ := List.mem_map.mp hs
    exact Or.inr (mem_encodeURIComponent hc)

theorem dropWhile_of_forall {p : Char → Bool} {s : List Char} (h : ∀ c ∈ s, p c = false) :
    s.dropWhile p = s := by
  cases s with
  | nil => rfl
  | cons c s => simp [h c (by simp)]

/-- Printable text keeps its ends. -/
theorem stripEnds_of_printable {s : List Char} (h : ∀ c ∈ s, isControlOrSpace c = false) :
    stripEnds s = s := by
  have hr : ∀ c ∈ s.reverse, isControlOrSpace c = false := fun c hc => h c (List.mem_reverse.mp hc)
  rw [stripEnds, dropWhile_of_forall h, dropWhile_of_forall hr, List.reverse_reverse]

theorem filter_of_printable {s : List Char} (h : ∀ c ∈ s, isControlOrSpace c = false) :
    (s.filter fun c => !isTabOrNewline c) = s := by
  apply List.filter_eq_self.mpr
  intro c hc
  have hp := h c hc
  have ht : isTabOrNewline c = false := by
    by_contra hn
    simp only [isTabOrNewline, Bool.not_eq_false, Bool.or_eq_true, decide_eq_true_eq] at hn
    rcases hn with (rfl | rfl) | rfl <;> exact absurd hp (by decide)
  rw [ht, Bool.not_false]

/-- The path text of a URL below an origin is all that follows the origin. -/
theorem pathText_origin (origin : Origin) {p : List Char} (hp : ∀ c ∈ p, IsPathChar c) :
    pathText (origin.text ++ '/' :: p) = '/' :: p := by
  have hpath : ∀ c ∈ '/' :: p, IsPathChar c := by
    intro c hc
    rcases List.mem_cons.mp hc with rfl | hc
    · exact Or.inl rfl
    · exact hp c hc
  have hall : ∀ c ∈ origin.text ++ '/' :: p, isControlOrSpace c = false := by
    intro c hc
    rcases List.mem_append.mp hc with hc | hc
    · rw [Origin.text, List.mem_append, List.mem_append] at hc
      rcases hc with (hc | hc) | hc
      · have hs : origin.scheme.all (fun d => !isControlOrSpace d) = true := by
          rcases origin.scheme_special with he | he <;> rw [he] <;> decide
        simpa using List.all_eq_true.mp hs c hc
      · have hs : ("://".toList.all fun d => !isControlOrSpace d) = true := by decide
        simpa using List.all_eq_true.mp hs c hc
      · exact (origin.authority_plain c hc).2.2
    · exact (hpath c hc).printable
  have hscheme : ((origin.text ++ '/' :: p).dropWhile (· != ':')).drop 1 =
      '/' :: '/' :: (origin.authority ++ '/' :: p) := by
    rcases origin.scheme_special with he | he <;> simp [Origin.text, he]
  have hslashes : ('/' :: '/' :: (origin.authority ++ '/' :: p)).dropWhile isSlash =
      origin.authority ++ '/' :: p := by
    obtain ⟨a, rest, ha⟩ := List.exists_cons_of_ne_nil origin.authority_ne_nil
    have hs : isSlash a = false := (origin.authority_plain a (by simp [ha])).1
    have hf : isSlash '/' = true := by decide
    simp [ha, hs, hf]
  have hauthority : (origin.authority ++ '/' :: p).dropWhile
      (fun c => !(isSlash c || endsPath c)) = '/' :: p := by
    rw [List.dropWhile_append_of_pos]
    · exact List.dropWhile_cons_of_neg (by decide)
    · intro c hc
      obtain ⟨hs, he, _⟩ := origin.authority_plain c hc
      simp [hs, he]
  have htake : ('/' :: p).takeWhile (fun c => !endsPath c) = '/' :: p := by
    apply List.takeWhile_eq_self_iff.mpr
    intro c hc
    simp [(hpath c hc).not_endsPath]
  rw [pathText, stripEnds_of_printable hall, filter_of_printable hall]
  simp only [hscheme, hslashes, hauthority, htake]

/-- Where only the forward slash occurs, both ways of splitting agree. -/
theorem splitOnP_isSlash {p : List Char} (h : ∀ c ∈ p, IsPathChar c) :
    p.splitOnP isSlash = p.splitOn '/' := by
  induction p with
  | nil => rfl
  | cons c p ih =>
    have hc := (h c (by simp)).isSlash_eq
    rw [List.splitOnP_cons_eq_if_modifyHead, List.splitOn_cons_eq_if_modifyHead, hc,
      ih fun d hd => h d (List.mem_cons_of_mem c hd)]

theorem splitOn_joinSlash {names : List (List Char)} (h : names ≠ []) :
    (joinSlash (names.map encodeURIComponent)).splitOn '/' = names.map encodeURIComponent := by
  apply List.splitOn_intercalate
  · intro s hs
    obtain ⟨name, _, rfl⟩ := List.mem_map.mp hs
    exact not_mem_encodeURIComponent (by decide) (by decide) name
  · simpa using h

/-- Below an origin, what is requested for escaped segments is what their names resolve to,
escaped. -/
theorem fetchPath_origin (origin : Origin) {names : List (List Char)} (h : names ≠ []) :
    fetchPath (origin.text ++ '/' :: joinSlash (names.map encodeURIComponent)) =
      '/' :: joinSlash ((resolveDots names).map encodeURIComponent) := by
  have hc : ∀ c ∈ joinSlash (names.map encodeURIComponent), IsPathChar c :=
    fun c hc => isPathChar_joinSlash hc
  have hmap : (names.map encodeURIComponent).map (·.flatMap encodePathChar) =
      names.map encodeURIComponent := by
    rw [List.map_map]
    exact List.map_congr_left fun s _ => flatMap_encodePathChar s
  have hdots := removeDots_map encodeURIComponent isSingleDot_encodeURIComponent
    isDoubleDot_encodeURIComponent [] [] names
  rw [fetchPath, pathText_origin origin hc, List.drop_one, List.tail_cons, splitOnP_isSlash hc,
    splitOn_joinSlash h, hmap]
  exact congrArg (fun l => '/' :: joinSlash l) hdots

/-- A path of escaped segments determines the segments. -/
theorem joinSlash_map_injective {names others : List (List Char)} (h : names ≠ [])
    (ho : others ≠ [])
    (he : joinSlash (names.map encodeURIComponent) = joinSlash (others.map encodeURIComponent)) :
    names = others := by
  have hs := congrArg (List.splitOn '/') he
  rw [splitOn_joinSlash h, splitOn_joinSlash ho] at hs
  exact List.map_injective_iff.mpr encodeURIComponent_injective hs

end LiveData.Uri
