import LiveData.Core.Text

/-!
# Textual statements with bind parameters

A textual statement is scanned once for parameters: a colon followed by word characters and
dollar signs starts one, wherever it stands, unless a colon, one of these characters or a
backslash comes before it or a colon after the name. A backslash before such a colon is taken
away. The scan is compared with the text it is given.
-/

namespace LiveData.Sql

/-- What is left of a character, or a parameter. -/
inductive Piece where
  | char (c : Nat)
  | bind (name : Str)
  deriving DecidableEq, Repr

/-- A text that is sent as it is. -/
def chars (s : Str) : List Piece := s.map Piece.char

@[simp] theorem chars_nil : chars [] = [] := rfl
@[simp] theorem chars_cons (c : Nat) (s : Str) : chars (c :: s) = .char c :: chars s := rfl
@[simp] theorem chars_append (s t : Str) : chars (s ++ t) = chars s ++ chars t := by simp [chars]
@[simp] theorem length_chars (s : Str) : (chars s).length = s.length := by simp [chars]

theorem chars_injective : Function.Injective chars :=
  List.map_injective_iff.mpr fun _ _ h => Piece.char.inj h

theorem append_eq_chars_iff {pieces pieces' : List Piece} {t : Str} :
    pieces ++ pieces' = chars t ↔ ∃ a b, pieces = chars a ∧ pieces' = chars b ∧ t = a ++ b := by
  constructor
  · intro h
    obtain ⟨a, b, rfl, ha, hb⟩ := List.map_eq_append_iff.mp h.symm
    exact ⟨a, b, ha.symm, hb.symm, rfl⟩
  · rintro ⟨a, b, rfl, rfl, rfl⟩
    exact (chars_append a b).symm

theorem cons_char_eq_chars_iff {c : Nat} {pieces : List Piece} {t : Str} :
    .char c :: pieces = chars t ↔ ∃ a, pieces = chars a ∧ t = c :: a := by
  cases t with
  | nil => simp
  | cons d t =>
    rw [chars_cons, List.cons.injEq, Piece.char.injEq]
    constructor
    · rintro ⟨rfl, h⟩
      exact ⟨t, h, rfl⟩
    · rintro ⟨a, h, ha⟩
      obtain ⟨rfl, rfl⟩ := List.cons.inj ha
      exact ⟨rfl, h⟩

/-- The parameters of a scanned text, in order. -/
def bindNames (pieces : List Piece) : List Str :=
  pieces.filterMap fun
    | .bind name => some name
    | .char _ => none

@[simp] theorem bindNames_append (p q : List Piece) :
    bindNames (p ++ q) = bindNames p ++ bindNames q := by simp [bindNames]

@[simp] theorem bindNames_chars (s : Str) : bindNames (chars s) = [] := by
  induction s with
  | nil => rfl
  | cons c s ih => simpa [bindNames] using ih

section

variable (wide : Nat → Bool)

/-- Word characters: letters, digits and underscore in the ASCII range, `wide` beyond it. -/
def isWordChar (c : Nat) : Bool :=
  if c < 128 then isDigit c || (65 ≤ c && c ≤ 90) || (97 ≤ c && c ≤ 122) || c == 95 else wide c

/-- The characters of a parameter name: word characters and the dollar sign. -/
def isNameChar (c : Nat) : Bool := c == 36 || isWordChar wide c

/-- The character before a colon keeps it from starting a parameter. -/
def blocksBind : Option Nat → Bool
  | none => false
  | some c => c == 58 || c == 92 || isNameChar wide c

/-- The name of the parameter that starts at `c`, if one does. -/
def bindName? (prev : Option Nat) (c : Nat) (rest : Str) : Option Str :=
  if c = 58 ∧ blocksBind wide prev = false ∧ (spanRun (isNameChar wide) rest).1 ≠ [] ∧
      (spanRun (isNameChar wide) rest).2.head? ≠ some 58 then
    some (spanRun (isNameChar wide) rest).1
  else none

/-- The backslash `c` escapes the colon after it. -/
def escapesColon (c : Nat) : Str → Bool
  | [] => false
  | d :: rest => c == 92 && d == 58 && (spanRun (isNameChar wide) rest).2.head? != some 58

/-- The scan: `skip` characters still belong to the name just read. -/
def scan (prev : Option Nat) (skip : Nat) : Str → List Piece
  | [] => []
  | c :: rest =>
    match skip with
    | k + 1 => scan (some c) k rest
    | 0 =>
      match bindName? wide prev c rest with
      | some name => .bind name :: scan (some c) name.length rest
      | none =>
        if escapesColon wide c rest then scan (some c) 0 rest
        else .char c :: scan (some c) 0 rest

/-- The pieces of a textual statement. -/
def textClause (s : Str) : List Piece := scan wide none 0 s

/-- A parameter starts somewhere in the text. -/
def HasBind (s : Str) : Prop :=
  ∃ before word after, s = before ++ 58 :: (word ++ after) ∧
    blocksBind wide before.getLast? = false ∧ word ≠ [] ∧
    (∀ c ∈ word, isNameChar wide c = true) ∧ StopsRun (isNameChar wide) after ∧
    after.head? ≠ some 58

/-- A colon of the text is escaped by a backslash. -/
def HasEscape (s : Str) : Prop :=
  ∃ before word after, s = before ++ 92 :: 58 :: (word ++ after) ∧
    (∀ c ∈ word, isNameChar wide c = true) ∧ StopsRun (isNameChar wide) after ∧
    after.head? ≠ some 58

end

variable {wide : Nat → Bool}

/-- The last character read after `s`. -/
def lastOf (prev : Option Nat) (s : Str) : Option Nat := s.getLast?.or prev

@[simp] theorem lastOf_nil (prev : Option Nat) : lastOf prev [] = prev := by simp [lastOf]

@[simp] theorem lastOf_cons (prev : Option Nat) (c : Nat) (s : Str) :
    lastOf prev (c :: s) = lastOf (some c) s := by
  cases s with
  | nil => simp [lastOf]
  | cons d s => simp [lastOf, List.getLast?_cons]

theorem lastOf_none (s : Str) : lastOf none s = s.getLast? := by simp [lastOf]

/-- Only whether the previous character blocks a parameter matters. -/
theorem scan_congr {p q : Option Nat} (h : blocksBind wide p = blocksBind wide q) (skip : Nat)
    (s : Str) : scan wide p skip s = scan wide q skip s := by
  cases s with
  | nil => rfl
  | cons c rest =>
    cases skip with
    | zero => simp only [scan, bindName?, h]
    | succ k => rfl

private theorem spanRun_append_stop {p : Nat → Bool} {d : Nat} (hd : p d = false) (s t : Str) :
    spanRun p (s ++ d :: t) = ((spanRun p s).1, (spanRun p s).2 ++ d :: t) := by
  induction s with
  | nil => simp [spanRun, hd]
  | cons c s ih =>
    by_cases h : p c = true
    · simp [spanRun, h, ih]
    · simp [spanRun, h]

private theorem head?_append_ne {d : Nat} (hd : d ≠ 58) (s t : Str) :
    (s ++ d :: t).head? = some 58 ↔ s.head? = some 58 := by
  cases s <;> simp [hd]

theorem bindName?_append {d : Nat} (hw : isNameChar wide d = false) (hd : d ≠ 58)
    (prev : Option Nat) (c : Nat) (s t : Str) :
    bindName? wide prev c (s ++ d :: t) = bindName? wide prev c s := by
  simp only [bindName?, spanRun_append_stop hw, ne_eq, head?_append_ne hd]

theorem escapesColon_of_ne {c : Nat} (h : c ≠ 92) (s : Str) : escapesColon wide c s = false := by
  cases s <;> simp [escapesColon, h]

theorem escapesColon_append {d : Nat} (hw : isNameChar wide d = false) (hd : d ≠ 58)
    (c : Nat) (s t : Str) : escapesColon wide c (s ++ d :: t) = escapesColon wide c s := by
  cases s with
  | nil => simp [escapesColon, hd]
  | cons e s =>
    have hb : ((spanRun (isNameChar wide) (s ++ d :: t)).2.head? != some 58) =
        ((spanRun (isNameChar wide) s).2.head? != some 58) := by
      rw [Bool.eq_iff_iff, bne_iff_ne, bne_iff_ne, spanRun_append_stop hw]
      exact not_congr (head?_append_ne hd _ _)
    simp only [List.cons_append, escapesColon, hb]

theorem bindName?_eq_some {prev : Option Nat} {c : Nat} {rest name : Str}
    (h : bindName? wide prev c rest = some name) :
    c = 58 ∧ blocksBind wide prev = false ∧ name ≠ [] ∧
      name = (spanRun (isNameChar wide) rest).1 ∧
      (spanRun (isNameChar wide) rest).2.head? ≠ some 58 := by
  unfold bindName? at h
  split at h
  · next hc =>
    obtain rfl := Option.some.inj h
    exact ⟨hc.1, hc.2.1, hc.2.2.1, rfl, hc.2.2.2⟩
  · simp at h

theorem bindName?_length_le {prev : Option Nat} {c : Nat} {rest name : Str}
    (h : bindName? wide prev c rest = some name) : name.length ≤ rest.length := by
  have hs := congrArg List.length (spanRun_append (isNameChar wide) rest)
  rw [(bindName?_eq_some h).2.2.2.1]
  simp only [List.length_append] at hs
  omega

theorem scan_cons_zero (prev : Option Nat) (c : Nat) (rest : Str) :
    scan wide prev 0 (c :: rest) =
      match bindName? wide prev c rest with
      | some name => .bind name :: scan wide (some c) name.length rest
      | none =>
        if escapesColon wide c rest then scan wide (some c) 0 rest
        else .char c :: scan wide (some c) 0 rest := rfl

/-- A character that is neither a colon nor part of a word separates the scan. -/
theorem scan_append {d : Nat} (hw : isNameChar wide d = false) (hd : d ≠ 58) (s t : Str) :
    ∀ (prev : Option Nat) (skip : Nat), skip ≤ s.length →
      scan wide prev skip (s ++ d :: t) =
        scan wide prev skip s ++ scan wide (lastOf prev s) 0 (d :: t) := by
  induction s with
  | nil =>
    intro prev skip hk
    obtain rfl : skip = 0 := by simpa using hk
    simp [scan]
  | cons c s ih =>
    intro prev skip hk
    rw [lastOf_cons, List.cons_append]
    cases skip with
    | succ k => exact ih (some c) k (by simpa using hk)
    | zero =>
      rw [scan_cons_zero prev c, scan_cons_zero prev c, bindName?_append hw hd,
        escapesColon_append hw hd]
      cases hb : bindName? wide prev c s with
      | some name =>
        change .bind name :: scan wide (some c) name.length (s ++ d :: t) = _
        rw [ih (some c) _ (bindName?_length_le hb)]
        rfl
      | none =>
        have hz := ih (some c) 0 (Nat.zero_le _)
        cases he : escapesColon wide c s with
        | true => exact hz
        | false =>
          change .char c :: scan wide (some c) 0 (s ++ d :: t) = _
          rw [hz]
          rfl

/-- Skipped characters and taken backslashes only shorten the output. -/
theorem length_scan_le (s : Str) : ∀ (prev : Option Nat) (skip : Nat),
    (scan wide prev skip s).length ≤ s.length := by
  induction s with
  | nil => simp [scan]
  | cons c s ih =>
    intro prev skip
    cases skip with
    | succ k =>
      have h := ih (some c) k
      simp only [scan, List.length_cons]
      omega
    | zero =>
      simp only [scan]
      split
      · next name _ =>
        have h := ih (some c) name.length
        simp only [List.length_cons]
        omega
      · have h := ih (some c) 0
        split <;> simp only [List.length_cons] <;> omega

/-- A text passes the scan unchanged exactly when nothing starts at any of its positions. -/
theorem scan_eq_chars_iff (s : Str) : ∀ prev : Option Nat,
    scan wide prev 0 s = chars s ↔ ∀ before c rest, s = before ++ c :: rest →
      bindName? wide (lastOf prev before) c rest = none ∧ escapesColon wide c rest = false := by
  induction s with
  | nil => simp [scan]
  | cons c s ih =>
    intro prev
    constructor
    · intro h
      have hlen := congrArg List.length h
      simp only [length_chars, List.length_cons] at hlen
      simp only [scan] at h hlen
      split at h
      · simp at h
      next hb =>
      split at h
      · next he =>
        have hle : (scan wide (some c) 0 s).length ≤ s.length := length_scan_le s (some c) 0
        simp only [hb, he, ite_true] at hlen
        omega
      next he =>
      rw [chars_cons, List.cons.injEq] at h
      have hrest := (ih (some c)).mp h.2
      intro before d rest hs
      cases before with
      | nil =>
        obtain ⟨rfl, rfl⟩ := List.cons.inj hs
        exact ⟨hb, by simpa using he⟩
      | cons e before =>
        obtain ⟨rfl, hs'⟩ := List.cons.inj hs
        rw [lastOf_cons]
        exact hrest before d rest hs'
    · intro h
      obtain ⟨hb, he⟩ := h [] c s rfl
      rw [lastOf_nil] at hb
      have hrest : scan wide (some c) 0 s = chars s := by
        apply (ih (some c)).mpr
        intro before d rest hs
        have hd := h (c :: before) d rest (by rw [hs]; rfl)
        rwa [lastOf_cons] at hd
      simp only [scan, hb, he, Bool.false_eq_true, ite_false, hrest, chars_cons]

theorem escapesColon_of_not_hasEscape {before rest : Str} {c : Nat}
    (h : ¬HasEscape wide (before ++ c :: rest)) : escapesColon wide c rest = false := by
  cases rest with
  | nil => rfl
  | cons d rest =>
    by_contra he
    simp only [escapesColon, Bool.not_eq_false, Bool.and_eq_true, beq_iff_eq,
      bne_iff_ne, ne_eq] at he
    obtain ⟨⟨rfl, rfl⟩, ha⟩ := he
    refine h ⟨before, (spanRun (isNameChar wide) rest).1,
      (spanRun (isNameChar wide) rest).2, ?_, spanRun_all _ _, spanRun_stops _ _, ha⟩
    rw [spanRun_append]

/-- A text passes the scan unchanged exactly when it has neither a parameter nor an
escaped colon. -/
theorem textClause_eq_chars_iff (s : Str) :
    textClause wide s = chars s ↔ ¬HasBind wide s ∧ ¬HasEscape wide s := by
  rw [textClause, scan_eq_chars_iff]
  constructor
  · intro h
    constructor
    · rintro ⟨before, word, after, rfl, hp, hne, hw, hs, ha⟩
      have hb := (h before 58 (word ++ after) rfl).1
      rw [bindName?, spanRun_of_stops hw hs, lastOf_none] at hb
      simp [hp, hne, ha] at hb
    · rintro ⟨before, word, after, rfl, hw, hs, ha⟩
      have he := (h before 92 (58 :: (word ++ after)) rfl).2
      rw [escapesColon, spanRun_of_stops hw hs] at he
      simp [ha] at he
  · rintro ⟨hbind, hescape⟩ before c rest rfl
    constructor
    · cases hb : bindName? wide (lastOf none before) c rest with
      | none => rfl
      | some name =>
        obtain ⟨rfl, hp, hne, hn, ha⟩ := bindName?_eq_some hb
        rw [lastOf_none] at hp
        refine absurd ⟨before, name, (spanRun (isNameChar wide) rest).2, ?_, hp, hne, ?_, ?_, ha⟩
          hbind
        · rw [hn, spanRun_append]
        · rw [hn]
          exact spanRun_all _ _
        · exact spanRun_stops _ _
    · exact escapesColon_of_not_hasEscape hescape

/-- A text without a colon passes the scan unchanged. -/
theorem textClause_of_no_colon {s : Str} (h : 58 ∉ s) : textClause wide s = chars s := by
  rw [textClause_eq_chars_iff]
  constructor
  · rintro ⟨before, word, after, rfl, -⟩
    simp at h
  · rintro ⟨before, word, after, rfl, -⟩
    simp at h

/-- A separator that blocks nothing passes and the scan goes on behind it as at a start. -/
theorem scan_separator {d : Nat} (hw : isNameChar wide d = false) (h58 : d ≠ 58) (h92 : d ≠ 92)
    (prev : Option Nat) (s : Str) : scan wide prev 0 (d :: s) = .char d :: textClause wide s := by
  have hb : bindName? wide prev d s = none := by simp [bindName?, h58]
  have he : escapesColon wide d s = false := escapesColon_of_ne h92 s
  have hc : blocksBind wide (some d) = blocksBind wide none := by simp [blocksBind, h58, h92, hw]
  simp only [scan, hb, he, Bool.false_eq_true, ite_false, textClause, scan_congr hc]

/-- A text is scanned on its own up to a separator, whatever stands behind it. -/
theorem textClause_before {s t : Str} {d : Nat} (hw : isNameChar wide d = false) (h58 : d ≠ 58)
    (h92 : d ≠ 92) :
    textClause wide (s ++ d :: t) = textClause wide s ++ (chars [d] ++ textClause wide t) := by
  have h := scan_append hw h58 s t none 0 (Nat.zero_le _)
  rw [scan_separator hw h58 h92] at h
  exact h

/-- A text spliced behind a separator is scanned on its own. -/
theorem textClause_splice {s t : Str} {d : Nat} (hw : isNameChar wide d = false) (h58 : d ≠ 58)
    (h92 : d ≠ 92) (hs : 58 ∉ s) :
    textClause wide (s ++ d :: t) = chars (s ++ [d]) ++ textClause wide t := by
  rw [textClause_before hw h58 h92, textClause_of_no_colon hs, chars_append, List.append_assoc]

/-- Without an escaped colon nothing else than the text itself is left of it. -/
theorem eq_of_scan {s : Str} : ∀ {prev : Option Nat} {t : Str}, scan wide prev 0 s = chars t →
    (∀ before c rest, s = before ++ c :: rest → escapesColon wide c rest = false) → t = s := by
  induction s with
  | nil => exact fun h _ => chars_injective h.symm
  | cons c s ih =>
    intro prev t h hescape
    have he := hescape [] c s rfl
    rw [scan_cons_zero] at h
    cases hb : bindName? wide prev c s with
    | some name => cases t <;> simp [hb] at h
    | none =>
      rw [hb, he] at h
      obtain ⟨u, hu, rfl⟩ := cons_char_eq_chars_iff.mp h
      rw [ih hu fun before d rest hs => hescape (c :: before) d rest (by rw [hs]; rfl)]

theorem eq_of_textClause {s t : Str} (h : textClause wide s = chars t) (hs : ¬HasEscape wide s) :
    t = s := by
  apply eq_of_scan h
  intro before c rest he
  rw [he] at hs
  exact escapesColon_of_not_hasEscape hs

end LiveData.Sql
