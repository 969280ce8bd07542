import LiveData.Sql.Words

/-!
# Quoted text

Identifiers and literals between quotes that are doubled inside, their readers, which end at
the first quote that stands alone, and bodies between two pairs of dollar signs.
-/

namespace LiveData.Sql

/-- The characters of `p` twice, the others once. -/
def doubled (p : Nat → Bool) (s : Str) : Str := s.flatMap fun c => if p c then [c, c] else [c]

@[simp] theorem doubled_nil (p : Nat → Bool) : doubled p [] = [] := rfl

theorem doubled_cons_pos {p : Nat → Bool} {c : Nat} (h : p c = true) (s : Str) :
    doubled p (c :: s) = c :: c :: doubled p s := by simp [doubled, h]

theorem doubled_cons_neg {p : Nat → Bool} {c : Nat} (h : p c = false) (s : Str) :
    doubled p (c :: s) = c :: doubled p s := by simp [doubled, h]

/-- Doubling keeps what a text begins with. -/
@[simp] theorem head?_doubled (p : Nat → Bool) (s : Str) : (doubled p s).head? = s.head? := by
  cases s with
  | nil => rfl
  | cons c s =>
    cases h : p c with
    | true => rw [doubled_cons_pos h, List.head?_cons, List.head?_cons]
    | false => rw [doubled_cons_neg h, List.head?_cons, List.head?_cons]

/-- A character in front of what was read. -/
def readFirst (c : Nat) (read : Option (Str × Str)) : Option (Str × Str) :=
  read.map fun r => (c :: r.1, r.2)

@[simp] theorem readFirst_some (c : Nat) (s rest : Str) :
    readFirst c (some (s, rest)) = some (c :: s, rest) := rfl

theorem readFirst_eq_some {c : Nat} {read : Option (Str × Str)} {s rest : Str} :
    readFirst c read = some (s, rest) ↔ ∃ t, read = some (t, rest) ∧ s = c :: t := by
  cases read with
  | none => simp [readFirst]
  | some r => simp [readFirst, Prod.ext_iff, eq_comm, and_comm]

/-! ## Delimited identifiers and plain literals -/

/-- The text after an opening quote up to the first quote that stands alone, and what follows
it; two quotes stand for one. -/
def readDelimited (quote : Nat) : Str → Option (Str × Str)
  | [] => none
  | c :: s =>
    if c = quote then
      match s with
      | [] => some ([], [])
      | d :: rest =>
        if d = quote then readFirst quote (readDelimited quote rest) else some ([], d :: rest)
    else readFirst c (readDelimited quote s)

theorem readDelimited_cons_of_ne {quote c : Nat} (h : c ≠ quote) (s : Str) :
    readDelimited quote (c :: s) = readFirst c (readDelimited quote s) := by
  cases s <;> simp [readDelimited, h]

@[simp] theorem readDelimited_quote_quote (quote : Nat) (s : Str) :
    readDelimited quote (quote :: quote :: s) = readFirst quote (readDelimited quote s) := by
  simp [readDelimited]

/-- A quote that stands alone ends the text. -/
theorem readDelimited_quote {quote : Nat} {rest : Str} (h : rest.head? ≠ some quote) :
    readDelimited quote (quote :: rest) = some ([], rest) := by
  cases rest with
  | nil => simp [readDelimited]
  | cons d rest =>
    have hne : d ≠ quote := by simpa using h
    simp [readDelimited, hne]

/-- Text with its quotes doubled is read back. -/
theorem readDelimited_doubled {quote : Nat} {rest : Str} (h : rest.head? ≠ some quote) (s : Str) :
    readDelimited quote (doubled (· == quote) s ++ quote :: rest) = some (s, rest) := by
  induction s with
  | nil => exact readDelimited_quote h
  | cons c s ih =>
    by_cases hc : c = quote
    · subst hc
      rw [doubled_cons_pos (by simp), List.cons_append, List.cons_append,
        readDelimited_quote_quote, ih, readFirst_some]
    · rw [doubled_cons_neg (by simpa using hc), List.cons_append, readDelimited_cons_of_ne hc, ih,
        readFirst_some]

/-- An identifier between double quotes; it is not empty. -/
def readDelimitedIdentifier : Str → Option (Str × Str)
  | [] => none
  | c :: s =>
    if c = 34 then (readDelimited 34 s).bind fun r => if r.1 = [] then none else some r else none

/-- A quoted identifier is read back. -/
theorem readDelimitedIdentifier_doubled {name rest : Str} (hname : name ≠ [])
    (h : rest.head? ≠ some 34) :
    readDelimitedIdentifier (34 :: (doubled (· == 34) name ++ 34 :: rest)) = some (name, rest) := by
  simp [readDelimitedIdentifier, readDelimited_doubled h, hname]

/-- An unquoted identifier, in lower case and no keyword. -/
def readPlainIdentifier (keyword : Str → Bool) (s : Str) : Option (Str × Str) :=
  let word := spanRun isWordPart s
  let name := asciiLower word.1
  if isName name ∧ keyword name = false then some (name, word.2) else none

/-- An identifier, quoted or not. -/
def readIdent (keyword : Str → Bool) (s : Str) : Option (Str × Str) :=
  if s.head? = some 34 then readDelimitedIdentifier s else readPlainIdentifier keyword s

/-- `quote_ident` of PostgreSQL: a lower-case name that is no keyword stays as it is. -/
def quoteIdent (keyword : Str → Bool) (name : Str) : Str :=
  if isName name ∧ keyword name = false then name else 34 :: doubled (· == 34) name ++ [34]

/-! ## Literals with backslashes -/

/-- What a character after a backslash stands for; numbers in an escape are not read. -/
def escapedChar (c : Nat) : Option Nat :=
  if c = 98 then some 8
  else if c = 102 then some 12
  else if c = 110 then some 10
  else if c = 114 then some 13
  else if c = 116 then some 9
  else if (48 ≤ c ∧ c ≤ 55) ∨ c = 120 ∨ c = 117 ∨ c = 85 then none
  else some c

/-- The text after `E'` up to the first quote that stands alone, and what follows it. -/
def readEscaped : Str → Option (Str × Str)
  | [] => none
  | c :: s =>
    if c = 92 then
      match s with
      | [] => none
      | d :: rest => (escapedChar d).bind fun e => readFirst e (readEscaped rest)
    else if c = 39 then
      match s with
      | [] => some ([], [])
      | d :: rest => if d = 39 then readFirst 39 (readEscaped rest) else some ([], d :: rest)
    else readFirst c (readEscaped s)

/-- The characters that a literal with backslashes doubles. -/
def isEscaped (c : Nat) : Bool := c == 39 || c == 92

theorem readEscaped_cons {c : Nat} (h : isEscaped c = false) (s : Str) :
    readEscaped (c :: s) = readFirst c (readEscaped s) := by
  simp only [isEscaped, Bool.or_eq_false_iff, beq_eq_false_iff_ne] at h
  cases s <;> simp [readEscaped, h.1, h.2]

@[simp] theorem readEscaped_twice {c : Nat} (h : isEscaped c = true) (s : Str) :
    readEscaped (c :: c :: s) = readFirst c (readEscaped s) := by
  simp only [isEscaped, Bool.or_eq_true, beq_iff_eq] at h
  rcases h with rfl | rfl <;> simp [readEscaped, escapedChar]

/-- A backslash before a colon says nothing. -/
theorem readEscaped_colon (s : Str) : readEscaped (92 :: 58 :: s) = readEscaped (58 :: s) := by
  have hcolon : readEscaped (58 :: s) = readFirst 58 (readEscaped s) := readEscaped_cons rfl s
  rw [hcolon, readEscaped, if_pos rfl]
  rfl

theorem readEscaped_quote {rest : Str} (h : rest.head? ≠ some 39) :
    readEscaped (39 :: rest) = some ([], rest) := by
  cases rest with
  | nil => simp [readEscaped]
  | cons d rest =>
    have hne : d ≠ 39 := by simpa using h
    simp [readEscaped, hne]

/-- A literal of either kind. -/
def readLiteral : Str → Option (Str × Str)
  | [] => none
  | c :: s =>
    if c = 39 then readDelimited 39 s
    else if c = 69 ∧ s.head? = some 39 then readEscaped (s.drop 1)
    else none

/-- `quote_literal` of PostgreSQL: a backslash makes it a literal with escapes. -/
def quoteLiteral (s : Str) : Str :=
  if 92 ∈ s then 69 :: 39 :: (doubled isEscaped s ++ [39])
  else 39 :: (doubled (· == 39) s ++ [39])

/-! ## Dollar-quoted bodies -/

/-- The text up to the first two dollar signs, and what follows them. -/
def splitDollars : Str → Option (Str × Str)
  | [] => none
  | c :: s =>
    if c = 36 ∧ s.head? = some 36 then some ([], s.drop 1) else readFirst c (splitDollars s)

theorem append_of_splitDollars {s body rest : Str} (h : splitDollars s = some (body, rest)) :
    body ++ 36 :: 36 :: rest = s := by
  induction s generalizing body with
  | nil => simp [splitDollars] at h
  | cons c s ih =>
    unfold splitDollars at h
    split at h
    · next hdollars =>
      obtain ⟨rfl, hhead⟩ := hdollars
      obtain ⟨rfl, rfl⟩ := Prod.mk.inj (Option.some.inj h)
      cases s with
      | nil => simp at hhead
      | cons d s =>
        obtain rfl : d = 36 := by simpa using hhead
        rfl
    · obtain ⟨t, ht, rfl⟩ := readFirst_eq_some.mp h
      rw [List.cons_append, ih ht]

/-- Two dollar signs stand at the front of a text or behind its first character. -/
theorem dollars_infix_cons {c : Nat} {s : Str} :
    [36, 36] <:+: c :: s ↔ (c = 36 ∧ s.head? = some 36) ∨ [36, 36] <:+: s := by
  rw [List.infix_cons_iff]
  apply or_congr_left
  cases s with
  | nil => simp [List.cons_prefix_cons]
  | cons d s => simp [List.cons_prefix_cons, eq_comm]

/-- A body is split off exactly when no two dollar signs come earlier. -/
theorem splitDollars_append_iff {body rest : Str} :
    splitDollars (body ++ 36 :: 36 :: rest) = some (body, rest) ↔ ¬[36, 36] <:+: body ++ [36] := by
  induction body with
  | nil => simp [splitDollars, dollars_infix_cons]
  | cons c body ih =>
    have hhead : (body ++ 36 :: 36 :: rest).head? = (body ++ [36]).head? := by
      cases body <;> rfl
    rw [List.cons_append, List.cons_append, splitDollars, hhead, dollars_infix_cons]
    by_cases hdollars : c = 36 ∧ (body ++ [36]).head? = some 36
    · rw [if_pos hdollars, eq_true hdollars]
      simp
    · rw [if_neg hdollars, eq_false hdollars, false_or, ← ih, readFirst_eq_some]
      simp

/-- Two dollar signs do not reach over another character. -/
theorem dollars_infix_append {d : Nat} (hd : d ≠ 36) {s t : Str} :
    [36, 36] <:+: s ++ d :: t ↔ [36, 36] <:+: s ∨ [36, 36] <:+: t := by
  induction s with
  | nil =>
    rw [List.nil_append, dollars_infix_cons]
    simp [hd]
  | cons c s ih =>
    have hhead : (s ++ d :: t).head? = some 36 ↔ s.head? = some 36 := by
      cases s <;> simp [hd]
    rw [List.cons_append, dollars_infix_cons, dollars_infix_cons, hhead, ih, or_assoc]

/-- Doubling other characters makes no two dollar signs. -/
theorem dollars_infix_doubled {p : Nat → Bool} (hp : p 36 = false) {s : Str} :
    [36, 36] <:+: doubled p s ↔ [36, 36] <:+: s := by
  induction s with
  | nil => rfl
  | cons c s ih =>
    cases hc : p c with
    | true =>
      have hne : c ≠ 36 := by
        rintro rfl
        simp [hp] at hc
      rw [doubled_cons_pos hc, dollars_infix_cons, dollars_infix_cons, dollars_infix_cons, ih]
      simp [hne]
    | false => rw [doubled_cons_neg hc, dollars_infix_cons, dollars_infix_cons, head?_doubled, ih]

end LiveData.Sql
