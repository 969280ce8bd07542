import LiveData.Sql.Quoting
import LiveData.Sql.TextClause

/-!
# Quoted text in a textual statement

The scan of a textual statement goes into identifiers and literals. What it leaves of a
quoted text denotes what it leaves of the text itself, and it treats the text between two
frames of a template on its own.
-/

namespace LiveData.Sql

variable {wide : Nat → Bool} {p : Nat → Bool}

/-! ## What a scan leaves -/

/-- A scan that leaves everything goes on so behind its first character. -/
theorem scan_cons_eq_chars_iff {prev : Option Nat} {c : Nat} {s : Str} :
    scan wide prev 0 (c :: s) = chars (c :: s) ↔ bindName? wide prev c s = none ∧
      escapesColon wide c s = false ∧ scan wide (some c) 0 s = chars s := by
  constructor
  · intro h
    have hall := (scan_eq_chars_iff (c :: s) prev).mp h
    obtain ⟨hbind, hescape⟩ := hall [] c s rfl
    rw [lastOf_nil] at hbind
    refine ⟨hbind, hescape, (scan_eq_chars_iff s _).mpr fun before d rest hs => ?_⟩
    have hd := hall (c :: before) d rest (by rw [hs]; rfl)
    rwa [lastOf_cons] at hd
  · rintro ⟨hbind, hescape, hrest⟩
    simp only [scan, hbind, hescape, Bool.false_eq_true, ite_false, hrest, chars_cons]

/-- A scan that leaves characters only has met no parameter at the first one. -/
theorem scan_cons_eq_chars_cases {prev : Option Nat} {c : Nat} {s u : Str}
    (h : scan wide prev 0 (c :: s) = chars u) : bindName? wide prev c s = none ∧
      ((escapesColon wide c s = true ∧ scan wide (some c) 0 s = chars u) ∨
        (escapesColon wide c s = false ∧ ∃ a, scan wide (some c) 0 s = chars a ∧ u = c :: a)) := by
  rw [scan_cons_zero] at h
  cases hbind : bindName? wide prev c s with
  | some name => cases u <;> simp [hbind] at h
  | none =>
    refine ⟨rfl, ?_⟩
    rw [hbind] at h
    cases hescape : escapesColon wide c s with
    | true => exact Or.inl ⟨rfl, by simpa [hescape] using h⟩
    | false => exact Or.inr ⟨rfl, cons_char_eq_chars_iff.mp (by simpa [hescape] using h)⟩

/-- Characters that are neither colons nor backslashes are left. -/
theorem scan_cons_of_ne {c : Nat} (h58 : c ≠ 58) (h92 : c ≠ 92) (prev : Option Nat) (s : Str) :
    scan wide prev 0 (c :: s) = .char c :: scan wide (some c) 0 s := by
  have hbind : bindName? wide prev c s = none := by simp [bindName?, h58]
  have hescape : escapesColon wide c s = false := escapesColon_of_ne h92 s
  simp only [scan, hbind, hescape, Bool.false_eq_true, ite_false]

/-- A text that is not empty leaves something. -/
theorem ne_nil_of_scan {s v : Str} : ∀ {prev : Option Nat}, scan wide prev 0 s = chars v →
    s ≠ [] → v ≠ [] := by
  induction s with
  | nil => exact fun _ h => absurd rfl h
  | cons c s ih =>
    intro prev h _
    rcases (scan_cons_eq_chars_cases h).2 with ⟨hescape, hrest⟩ | ⟨-, a, -, rfl⟩
    · refine ih hrest ?_
      rintro rfl
      simp [escapesColon] at hescape
    · exact List.cons_ne_nil c a

/-! ## Doubled characters -/

/-- The doubled characters are not part of words and no colons. -/
def SetApart (wide : Nat → Bool) (p : Nat → Bool) : Prop :=
  ∀ c, p c = true → isNameChar wide c = false ∧ c ≠ 58

theorem spanRun_doubled (hp : SetApart wide p) (s : Str) :
    spanRun (isNameChar wide) (doubled p s) =
      ((spanRun (isNameChar wide) s).1, doubled p (spanRun (isNameChar wide) s).2) := by
  induction s with
  | nil => rfl
  | cons c s ih =>
    cases hc : p c with
    | true => simp [doubled_cons_pos hc, spanRun, (hp c hc).1]
    | false =>
      cases hw : isNameChar wide c with
      | true => simp [doubled_cons_neg hc, spanRun, hw, ih]
      | false => simp [doubled_cons_neg hc, spanRun, hw]

theorem bindName?_doubled (hp : SetApart wide p) (prev : Option Nat) (c : Nat) (s : Str) :
    bindName? wide prev c (doubled p s) = bindName? wide prev c s := by
  simp only [bindName?, spanRun_doubled hp, head?_doubled]

theorem escapesColon_doubled (hp : SetApart wide p) (c : Nat) (s : Str) :
    escapesColon wide c (doubled p s) = escapesColon wide c s := by
  cases s with
  | nil => rfl
  | cons d s =>
    cases hd : p d with
    | true =>
      have h58 : (d == 58) = false := beq_eq_false_iff_ne.mpr (hp d hd).2
      rw [doubled_cons_pos hd]
      simp only [escapesColon, h58, Bool.and_false, Bool.false_and]
    | false =>
      rw [doubled_cons_neg hd, escapesColon, escapesColon, spanRun_doubled hp, head?_doubled]

/-- A text of which everything is left is so with characters doubled. -/
theorem scan_doubled (hp : SetApart wide p) {s : Str} : ∀ {prev : Option Nat},
    scan wide prev 0 s = chars s → scan wide prev 0 (doubled p s) = chars (doubled p s) := by
  induction s with
  | nil => exact fun h => h
  | cons c s ih =>
    intro prev h
    obtain ⟨hbind, hescape, hrest⟩ := scan_cons_eq_chars_iff.mp h
    have htail : scan wide (some c) 0 (doubled p s) = chars (doubled p s) := ih hrest
    cases hc : p c with
    | true =>
      have h58 : c ≠ 58 := (hp c hc).2
      have hnone : ∀ prev s, bindName? wide prev c s = none := by simp [bindName?, h58]
      have htwice : escapesColon wide c (c :: doubled p s) = false := by simp [escapesColon, h58]
      rw [doubled_cons_pos hc]
      refine scan_cons_eq_chars_iff.mpr ⟨hnone _ _, htwice, ?_⟩
      refine scan_cons_eq_chars_iff.mpr ⟨hnone _ _, ?_, htail⟩
      rw [escapesColon_doubled hp, hescape]
    | false =>
      rw [doubled_cons_neg hc]
      refine scan_cons_eq_chars_iff.mpr ⟨?_, ?_, htail⟩
      · rw [bindName?_doubled hp, hbind]
      · rw [escapesColon_doubled hp, hescape]

/-- Of a text with doubled characters other than the backslash, what is left of the text
remains, doubled. -/
theorem exists_of_scan_doubled (hp : SetApart wide p) (h92 : p 92 = false) {s : Str} :
    ∀ {prev : Option Nat} {u : Str}, scan wide prev 0 (doubled p s) = chars u →
      ∃ v, scan wide prev 0 s = chars v ∧ u = doubled p v := by
  induction s with
  | nil =>
    intro prev u h
    exact ⟨[], rfl, chars_injective h.symm⟩
  | cons c s ih =>
    intro prev u h
    cases hc : p c with
    | true =>
      have h58 : c ≠ 58 := (hp c hc).2
      have hne : c ≠ 92 := by
        rintro rfl
        simp [h92] at hc
      rw [doubled_cons_pos hc, scan_cons_of_ne h58 hne, scan_cons_of_ne h58 hne] at h
      obtain ⟨a, ha, rfl⟩ := cons_char_eq_chars_iff.mp h
      obtain ⟨b, hb, rfl⟩ := cons_char_eq_chars_iff.mp ha
      obtain ⟨v, hv, rfl⟩ := ih hb
      exact ⟨c :: v, by rw [scan_cons_of_ne h58 hne, hv, chars_cons], (doubled_cons_pos hc v).symm⟩
    | false =>
      rw [doubled_cons_neg hc] at h
      obtain ⟨hbind, hrest⟩ := scan_cons_eq_chars_cases h
      rw [bindName?_doubled hp] at hbind
      rw [escapesColon_doubled hp] at hrest
      rcases hrest with ⟨hescape, hrest⟩ | ⟨hescape, a, hrest, rfl⟩
      · obtain ⟨v, hv, rfl⟩ := ih hrest
        exact ⟨v, by simp only [scan, hbind, hescape, ite_true, hv], rfl⟩
      · obtain ⟨v, hv, rfl⟩ := ih hrest
        refine ⟨c :: v, ?_, (doubled_cons_neg hc v).symm⟩
        simp only [scan, hbind, hescape, Bool.false_eq_true, ite_false, hv, chars_cons]

theorem setApart_quote {quote : Nat} (hw : isNameChar wide quote = false) (h58 : quote ≠ 58) :
    SetApart wide (· == quote) := by
  intro c hc
  rw [beq_iff_eq.mp hc]
  exact ⟨hw, h58⟩

theorem setApart_isEscaped : SetApart wide isEscaped := by
  intro c hc
  simp only [isEscaped, Bool.or_eq_true, beq_iff_eq] at hc
  rcases hc with rfl | rfl
  · exact ⟨rfl, by decide⟩
  · exact ⟨rfl, by decide⟩

/-- The backslash that remains of an escaped colon is read over. -/
theorem readEscaped_backslash {prev : Option Nat} {s u : Str}
    (hescape : escapesColon wide 92 s = true)
    (h : scan wide prev 0 (doubled isEscaped s) = chars u) (rest : Str) :
    readEscaped (92 :: (u ++ rest)) = readEscaped (u ++ rest) := by
  cases s with
  | nil => simp [escapesColon] at hescape
  | cons d s =>
    obtain rfl : d = 58 := by
      simp only [escapesColon, Bool.and_eq_true, beq_iff_eq] at hescape
      exact hescape.1.2
    rw [doubled_cons_neg (by decide)] at h
    rcases (scan_cons_eq_chars_cases h).2 with ⟨hcolon, -⟩ | ⟨-, a, -, rfl⟩
    · cases hs : doubled isEscaped s <;> simp [hs, escapesColon] at hcolon
    · rw [List.cons_append, readEscaped_colon]

/-- In front of a closing quote, `u` is read as `v`. -/
def ReadsEscaped (u v : Str) : Prop :=
  ∀ rest : Str, rest.head? ≠ some 39 → readEscaped (u ++ 39 :: rest) = some (v, rest)

theorem ReadsEscaped.twice {u v : Str} (h : ReadsEscaped u v) {c : Nat} (hc : isEscaped c = true) :
    ReadsEscaped (c :: c :: u) (c :: v) := by
  intro rest hrest
  rw [List.cons_append, List.cons_append, readEscaped_twice hc, h rest hrest, readFirst_some]

theorem ReadsEscaped.cons {u v : Str} (h : ReadsEscaped u v) {c : Nat} (hc : isEscaped c = false) :
    ReadsEscaped (c :: u) (c :: v) := by
  intro rest hrest
  rw [List.cons_append, readEscaped_cons hc, h rest hrest, readFirst_some]

/-- A doubled backslash keeps its second one unless that escapes a colon. -/
theorem exists_of_scan_backslashes {prev : Option Nat} {s u : Str}
    (ih : ∀ {prev : Option Nat} {u : Str}, scan wide prev 0 (doubled isEscaped s) = chars u →
      ∃ v, scan wide prev 0 s = chars v ∧ ReadsEscaped u v)
    (h : scan wide prev 0 (92 :: 92 :: doubled isEscaped s) = chars u) :
    ∃ v, scan wide prev 0 (92 :: s) = chars v ∧ ReadsEscaped u v := by
  obtain ⟨-, ⟨hescape, -⟩ | ⟨-, a, hsecond, rfl⟩⟩ := scan_cons_eq_chars_cases h
  · simp [escapesColon] at hescape
  have hbind : bindName? wide prev 92 s = none := by simp [bindName?]
  obtain ⟨-, ⟨hescape, hrest⟩ | ⟨hescape, b, hrest, rfl⟩⟩ := scan_cons_eq_chars_cases hsecond
  · rw [escapesColon_doubled setApart_isEscaped] at hescape
    obtain ⟨v, hv, hread⟩ := ih hrest
    refine ⟨v, by simp only [scan, hbind, hescape, ite_true, hv], fun rest hr => ?_⟩
    rw [List.cons_append, readEscaped_backslash hescape hrest]
    exact hread rest hr
  · rw [escapesColon_doubled setApart_isEscaped] at hescape
    obtain ⟨v, hv, hread⟩ := ih hrest
    refine ⟨92 :: v, ?_, hread.twice (by decide)⟩
    simp only [scan, hbind, hescape, Bool.false_eq_true, ite_false, hv, chars_cons]

/-- What is left of a text with escapes is read as what is left of the text. -/
theorem exists_of_scan_escaped {s : Str} : ∀ {prev : Option Nat} {u : Str},
    scan wide prev 0 (doubled isEscaped s) = chars u →
      ∃ v, scan wide prev 0 s = chars v ∧ ReadsEscaped u v := by
  induction s with
  | nil =>
    intro prev u h
    obtain rfl : u = [] := chars_injective h.symm
    exact ⟨[], rfl, fun rest hrest => readEscaped_quote hrest⟩
  | cons c s ih =>
    intro prev u h
    by_cases h92 : c = 92
    · -- the second backslash may be the one that escapes a colon
      subst h92
      rw [doubled_cons_pos (by decide)] at h
      exact exists_of_scan_backslashes ih h
    · cases hc : isEscaped c with
      | true =>
        have h58 : c ≠ 58 := by
          rintro rfl
          simp [isEscaped] at hc
        rw [doubled_cons_pos hc, scan_cons_of_ne h58 h92, scan_cons_of_ne h58 h92] at h
        obtain ⟨a, ha, rfl⟩ := cons_char_eq_chars_iff.mp h
        obtain ⟨b, hb, rfl⟩ := cons_char_eq_chars_iff.mp ha
        obtain ⟨v, hv, hread⟩ := ih hb
        exact ⟨c :: v, by rw [scan_cons_of_ne h58 h92, hv, chars_cons], hread.twice hc⟩
      | false =>
        rw [doubled_cons_neg hc] at h
        obtain ⟨hbind, hrest⟩ := scan_cons_eq_chars_cases h
        rw [bindName?_doubled setApart_isEscaped] at hbind
        rcases hrest with ⟨hescape, -⟩ | ⟨-, a, hrest, rfl⟩
        · simp [escapesColon_of_ne h92] at hescape
        · obtain ⟨v, hv, hread⟩ := ih hrest
          refine ⟨c :: v, ?_, hread.cons hc⟩
          simp only [scan, hbind, escapesColon_of_ne h92, Bool.false_eq_true, ite_false, hv,
            chars_cons]

/-! ## Literals and identifiers -/

section

variable {quote : Nat} (hw : isNameChar wide quote = false) (h58 : quote ≠ 58) (h92 : quote ≠ 92)
  (front : Str) (hfront : 58 ∉ front)
include hw h58 h92 hfront

/-- A text between two quotes is scanned on its own. -/
theorem textClause_between (s : Str) : textClause wide (front ++ quote :: (s ++ [quote])) =
    chars (front ++ [quote]) ++ (textClause wide s ++ chars [quote]) := by
  rw [textClause_splice hw h58 h92 hfront, textClause_before hw h58 h92]
  simp [textClause, scan]

/-- What is left of a text between quotes. -/
theorem exists_of_between {s u : Str}
    (h : textClause wide (front ++ quote :: (s ++ [quote])) = chars u) :
    ∃ a, textClause wide s = chars a ∧ u = front ++ quote :: (a ++ [quote]) := by
  rw [textClause_between hw h58 h92 front hfront] at h
  obtain ⟨f, b, hf, hb, rfl⟩ := append_eq_chars_iff.mp h
  obtain ⟨a, e, ha, he, rfl⟩ := append_eq_chars_iff.mp hb
  obtain rfl := chars_injective hf
  obtain rfl := chars_injective he
  exact ⟨a, ha, by simp⟩

/-- A text that is left is left between quotes. -/
theorem textClause_between_of {s : Str} (h : textClause wide s = chars s) :
    textClause wide (front ++ quote :: (s ++ [quote])) =
      chars (front ++ quote :: (s ++ [quote])) := by
  rw [textClause_between hw h58 h92 front hfront, h]
  simp

end

/-- What is left of a literal denotes what is left of its text. -/
theorem exists_of_quoteLiteral {s u : Str} (h : textClause wide (quoteLiteral s) = chars u) :
    ∃ v, textClause wide s = chars v ∧
      ∀ rest : Str, rest.head? ≠ some 39 → readLiteral (u ++ rest) = some (v, rest) := by
  unfold quoteLiteral at h
  split at h
  · obtain ⟨a, ha, rfl⟩ := exists_of_between rfl (by decide) (by decide) [69] (by decide) h
    obtain ⟨v, hv, hread⟩ := exists_of_scan_escaped ha
    refine ⟨v, hv, fun rest hrest => ?_⟩
    have hliteral : readLiteral ([69] ++ 39 :: (a ++ [39]) ++ rest) =
        readEscaped (a ++ 39 :: rest) := by simp [readLiteral]
    rw [hliteral, hread rest hrest]
  · obtain ⟨a, ha, rfl⟩ := exists_of_between rfl (by decide) (by decide) [] (by decide) h
    obtain ⟨v, hv, rfl⟩ := exists_of_scan_doubled (setApart_quote rfl (by decide)) (by decide) ha
    refine ⟨v, hv, fun rest hrest => ?_⟩
    have hliteral : readLiteral ([] ++ 39 :: (doubled (· == 39) v ++ [39]) ++ rest) =
        readDelimited 39 (doubled (· == 39) v ++ 39 :: rest) := by simp [readLiteral]
    rw [hliteral, readDelimited_doubled hrest]

/-- A literal is left when its text is. -/
theorem textClause_quoteLiteral {s : Str} (h : textClause wide s = chars s) :
    textClause wide (quoteLiteral s) = chars (quoteLiteral s) := by
  unfold quoteLiteral
  split
  · exact textClause_between_of rfl (by decide) (by decide) [69] (by decide)
      (scan_doubled setApart_isEscaped h)
  · exact textClause_between_of rfl (by decide) (by decide) [] (by decide)
      (scan_doubled (setApart_quote rfl (by decide)) h)

/-- The characters at which an identifier or a literal of a template ends. -/
def isBreak (c : Nat) : Bool := c == 32 || c == 10 || c == 41 || c == 59

theorem isBreak_cases {c : Nat} (h : isBreak c = true) : c = 32 ∨ c = 10 ∨ c = 41 ∨ c = 59 := by
  simpa [isBreak, or_assoc] using h

/-- A name is left. -/
theorem textClause_of_isName {name : Str} (h : isName name = true) :
    textClause wide name = chars name := by
  apply textClause_of_no_colon
  intro hmem
  have hpart := isWordPart_of_isName h 58 hmem
  simp [isWordPart, isDigit] at hpart

/-- A name that is no keyword is read up to a break. -/
theorem readIdent_of_isName {keyword : Str → Bool} {name : Str} (hname : isName name = true)
    (hkeyword : keyword name = false) {c : Nat} (hc : isBreak c = true) (rest : Str) :
    readIdent keyword (name ++ c :: rest) = some (name, c :: rest) := by
  have hstop : StopsRun isWordPart (c :: rest) := by
    rw [stopsRun_cons]
    rcases isBreak_cases hc with rfl | rfl | rfl | rfl <;> rfl
  have hhead : (name ++ c :: rest).head? ≠ some 34 := by
    obtain ⟨d, tail, rfl, hd, -⟩ := isName_iff.mp hname
    have hne : d ≠ 34 := by omega
    simpa using hne
  rw [readIdent, if_neg hhead, readPlainIdentifier,
    spanRun_of_stops (isWordPart_of_isName hname) hstop]
  simp only [asciiLower_of_isName hname, hname, hkeyword, and_self, ite_true]

/-- What is left of an identifier denotes what is left of its name. -/
theorem exists_of_quoteIdent {keyword : Str → Bool} {name u : Str} (hname : name ≠ [])
    (h : textClause wide (quoteIdent keyword name) = chars u) :
    ∃ v, textClause wide name = chars v ∧ ∀ c rest, isBreak c = true →
      readIdent keyword (u ++ c :: rest) = some (v, c :: rest) := by
  unfold quoteIdent at h
  split at h
  · next hplain =>
    have hleft : textClause wide name = chars name := textClause_of_isName hplain.1
    obtain rfl := chars_injective (hleft.symm.trans h)
    exact ⟨name, hleft, fun c rest hc => readIdent_of_isName hplain.1 hplain.2 hc rest⟩
  · obtain ⟨a, ha, rfl⟩ := exists_of_between rfl (by decide) (by decide) [] (by decide) h
    obtain ⟨v, hv, rfl⟩ := exists_of_scan_doubled (setApart_quote rfl (by decide)) (by decide) ha
    refine ⟨v, hv, fun c rest hc => ?_⟩
    have hrest : (c :: rest).head? ≠ some 34 := by
      rcases isBreak_cases hc with rfl | rfl | rfl | rfl <;> simp
    have hident : readIdent keyword ([] ++ 34 :: (doubled (· == 34) v ++ [34]) ++ c :: rest) =
        readDelimitedIdentifier (34 :: (doubled (· == 34) v ++ 34 :: c :: rest)) := by
      simp [readIdent]
    rw [hident, readDelimitedIdentifier_doubled (ne_nil_of_scan hv hname) hrest]

/-- An identifier is left when its name is. -/
theorem textClause_quoteIdent {keyword : Str → Bool} {name : Str}
    (h : textClause wide name = chars name) :
    textClause wide (quoteIdent keyword name) = chars (quoteIdent keyword name) := by
  unfold quoteIdent
  split
  · exact h
  · exact textClause_between_of rfl (by decide) (by decide) [] (by decide)
      (scan_doubled (setApart_quote rfl (by decide)) h)

theorem dollars_infix_quoteLiteral {s : Str} : [36, 36] <:+: quoteLiteral s ↔ [36, 36] <:+: s := by
  unfold quoteLiteral
  split
  · rw [dollars_infix_cons, dollars_infix_cons, dollars_infix_append (by decide),
      dollars_infix_doubled (by decide)]
    simp
  · rw [dollars_infix_cons, dollars_infix_append (by decide), dollars_infix_doubled (by decide)]
    simp

theorem dollars_infix_quoteIdent {keyword : Str → Bool} {name : Str} :
    [36, 36] <:+: quoteIdent keyword name ↔ [36, 36] <:+: name := by
  unfold quoteIdent
  split
  · rfl
  · rw [List.cons_append, dollars_infix_cons, dollars_infix_append (by decide),
      dollars_infix_doubled (by decide)]
    simp

/-! ## Templates -/

/-- A part of a template between two breaks, without colons and dollar signs. -/
def isFrame (frame : Str) : Bool :=
  frame.head?.any isBreak && frame.getLast?.any isBreak && !frame.contains 58 && !frame.contains 36

/-- A template with holes, each behind its frame. -/
def filled : List (Str × Str) → Str → Str
  | [], last => last
  | hole :: holes, last => hole.1 ++ (hole.2 ++ filled holes last)

/-- The holes with what a scan leaves of each. -/
def LeftOf (wide : Nat → Bool) : List (Str × Str) → List (Str × Str) → Prop :=
  List.Forall₂ fun hole left => left.1 = hole.1 ∧ textClause wide hole.2 = chars left.2

@[simp] theorem leftOf_nil_iff {left : List (Str × Str)} : LeftOf wide [] left ↔ left = [] :=
  List.forall₂_nil_left_iff

theorem leftOf_cons_iff {hole : Str × Str} {holes left : List (Str × Str)} :
    LeftOf wide (hole :: holes) left ↔ ∃ u, textClause wide hole.2 = chars u ∧
      ∃ rest, LeftOf wide holes rest ∧ left = (hole.1, u) :: rest := by
  rw [LeftOf, List.forall₂_cons_left_iff]
  constructor
  · rintro ⟨⟨frame, u⟩, rest, ⟨rfl, hu⟩, hrest, rfl⟩
    exact ⟨u, hu, rest, hrest, rfl⟩
  · rintro ⟨u, hu, rest, hrest, rfl⟩
    exact ⟨(hole.1, u), rest, ⟨rfl, hu⟩, hrest, rfl⟩

theorem exists_of_isFrame {frame : Str} (h : isFrame frame = true) :
    (∃ c rest, frame = c :: rest ∧ isBreak c = true) ∧
      (∃ rest c, frame = rest ++ [c] ∧ isBreak c = true) ∧ 58 ∉ frame ∧ 36 ∉ frame := by
  simp only [isFrame, Bool.and_eq_true, Option.any_eq_true, Bool.not_eq_true',
    List.contains_eq_mem, decide_eq_false_iff_not] at h
  obtain ⟨⟨⟨⟨c, hc, hfirst⟩, ⟨d, hd, hlast⟩⟩, h58⟩, h36⟩ := h
  obtain ⟨rest, hrest⟩ := List.head?_eq_some_iff.mp hc
  obtain ⟨front, hfront⟩ := List.getLast?_eq_some_iff.mp hd
  exact ⟨⟨c, rest, hrest, hfirst⟩, ⟨front, d, hfront, hlast⟩, h58, h36⟩

/-- Two texts without colons and dollar signs make a frame from a break to a break. -/
theorem isFrame_append {s t : Str}
    (hs : (s.head?.any isBreak && !s.contains 58 && !s.contains 36) = true)
    (ht : (t.getLast?.any isBreak && !t.contains 58 && !t.contains 36) = true) :
    isFrame (s ++ t) = true := by
  simp only [Bool.and_eq_true, Option.any_eq_true, Bool.not_eq_true', List.contains_eq_mem,
    decide_eq_false_iff_not] at hs ht
  obtain ⟨⟨⟨c, hc, hfirst⟩, hs58⟩, hs36⟩ := hs
  obtain ⟨⟨⟨d, hd, hlast⟩, ht58⟩, ht36⟩ := ht
  obtain ⟨rest, rfl⟩ := List.head?_eq_some_iff.mp hc
  obtain ⟨front, rfl⟩ := List.getLast?_eq_some_iff.mp hd
  rw [isFrame, ← List.append_assoc, List.getLast?_concat]
  simp only [List.mem_append, List.mem_cons, not_or] at hs58 hs36 ht58 ht36
  simp [hfirst, hlast, hs58, hs36, ht58, ht36]

theorem isNameChar_of_isBreak (wide : Nat → Bool) {c : Nat} (h : isBreak c = true) :
    isNameChar wide c = false ∧ c ≠ 58 ∧ c ≠ 92 := by
  rcases isBreak_cases h with rfl | rfl | rfl | rfl <;> exact ⟨rfl, by decide, by decide⟩

theorem ne_dollar_of_isBreak {c : Nat} (h : isBreak c = true) : c ≠ 36 := by
  rcases isBreak_cases h with rfl | rfl | rfl | rfl <;> decide

/-- The text behind a frame is scanned on its own. -/
theorem textClause_frame {frame : Str} (h : isFrame frame = true) (s : Str) :
    textClause wide (frame ++ s) = chars frame ++ textClause wide s := by
  obtain ⟨-, ⟨rest, c, rfl, hc⟩, h58, -⟩ := exists_of_isFrame h
  obtain ⟨hw, hne58, hne92⟩ := isNameChar_of_isBreak wide hc
  rw [List.append_assoc, List.singleton_append, textClause_splice hw hne58 hne92]
  exact fun hmem => h58 (List.mem_append_left _ hmem)

/-- So is the text in front of a break. -/
theorem textClause_append {t : Str} (ht : ∃ c rest, t = c :: rest ∧ isBreak c = true) (s : Str) :
    textClause wide (s ++ t) = textClause wide s ++ textClause wide t := by
  obtain ⟨c, rest, rfl, hc⟩ := ht
  obtain ⟨hw, hne58, hne92⟩ := isNameChar_of_isBreak wide hc
  rw [textClause_before hw hne58 hne92, ← List.nil_append (c :: rest),
    textClause_before hw hne58 hne92]
  rfl

/-- And the text behind a break. -/
theorem textClause_append_right {s : Str} (hs : ∃ rest c, s = rest ++ [c] ∧ isBreak c = true)
    (t : Str) : textClause wide (s ++ t) = textClause wide s ++ textClause wide t := by
  obtain ⟨rest, c, rfl, hc⟩ := hs
  obtain ⟨hw, hne58, hne92⟩ := isNameChar_of_isBreak wide hc
  rw [List.append_assoc, List.singleton_append, textClause_before hw hne58 hne92,
    textClause_before hw hne58 hne92, List.append_assoc, List.append_assoc]
  rfl

section

variable {holes : List (Str × Str)} {last : Str}

/-- A filled template begins with a break. -/
theorem exists_filled_eq_cons (hholes : ∀ hole ∈ holes, isFrame hole.1 = true)
    (hlast : isFrame last = true) : ∃ c rest, filled holes last = c :: rest ∧ isBreak c = true := by
  cases holes with
  | nil => exact (exists_of_isFrame hlast).1
  | cons hole holes =>
    obtain ⟨c, rest, hframe, hc⟩ := (exists_of_isFrame (hholes hole List.mem_cons_self)).1
    exact ⟨c, rest ++ (hole.2 ++ filled holes last), by rw [filled, hframe, List.cons_append], hc⟩

/-- A scan treats the holes one by one. -/
theorem textClause_filled_iff (hholes : ∀ hole ∈ holes, isFrame hole.1 = true)
    (hlast : isFrame last = true) {t : Str} : textClause wide (filled holes last) = chars t ↔
      ∃ left, LeftOf wide holes left ∧ t = filled left last := by
  induction holes generalizing t with
  | nil =>
    rw [filled, textClause_of_no_colon (exists_of_isFrame hlast).2.2.1, chars_injective.eq_iff]
    simp [filled, eq_comm]
  | cons hole holes ih =>
    have hrest : ∀ h ∈ holes, isFrame h.1 = true := fun h hh => hholes h (List.mem_cons_of_mem _ hh)
    rw [filled, textClause_frame (hholes hole List.mem_cons_self),
      textClause_append (exists_filled_eq_cons hrest hlast), append_eq_chars_iff]
    constructor
    · rintro ⟨frame, b, hframe, hb, rfl⟩
      obtain rfl := chars_injective hframe
      obtain ⟨item, r, hitem, hr, rfl⟩ := append_eq_chars_iff.mp hb
      obtain ⟨left, hleft, rfl⟩ := (ih hrest).mp hr
      exact ⟨(hole.1, item) :: left, leftOf_cons_iff.mpr ⟨item, hitem, left, hleft, rfl⟩, rfl⟩
    · rintro ⟨left, hleft, rfl⟩
      obtain ⟨u, hu, rest, hrestLeft, rfl⟩ := leftOf_cons_iff.mp hleft
      refine ⟨_, _, rfl, ?_, rfl⟩
      rw [hu, (ih hrest).mpr ⟨rest, hrestLeft, rfl⟩, ← chars_append]

/-- A template is left when its holes are. -/
theorem textClause_filled (hholes : ∀ hole ∈ holes, isFrame hole.1 = true)
    (hlast : isFrame last = true)
    (h : ∀ hole ∈ holes, textClause wide hole.2 = chars hole.2) :
    textClause wide (filled holes last) = chars (filled holes last) :=
  (textClause_filled_iff hholes hlast).mpr
    ⟨holes, List.forall₂_same.mpr fun hole hhole => ⟨rfl, h hole hhole⟩, rfl⟩

/-- Two dollar signs of a filled template stand in one of its holes. -/
theorem dollars_infix_filled (hholes : ∀ hole ∈ holes, isFrame hole.1 = true)
    (hlast : isFrame last = true) :
    [36, 36] <:+: filled holes last ++ [36] ↔ ∃ hole ∈ holes, [36, 36] <:+: hole.2 := by
  have hnone : ∀ s : Str, 36 ∉ s → ¬[36, 36] <:+: s := fun s hs h => hs (h.subset (by simp))
  induction holes with
  | nil =>
    obtain ⟨-, ⟨rest, c, rfl, hc⟩, -, h36⟩ := exists_of_isFrame hlast
    rw [filled, List.append_assoc, List.singleton_append,
      dollars_infix_append (ne_dollar_of_isBreak hc)]
    have hfront : ¬[36, 36] <:+: rest := hnone rest fun hmem => h36 (List.mem_append_left _ hmem)
    simp [hfront, dollars_infix_cons]
  | cons hole holes ih =>
    have hrest : ∀ h ∈ holes, isFrame h.1 = true := fun h hh => hholes h (List.mem_cons_of_mem _ hh)
    obtain ⟨-, ⟨front, c, hframe, hc⟩, -, h36⟩ :=
      exists_of_isFrame (hholes hole List.mem_cons_self)
    have hne := ne_dollar_of_isBreak hc
    obtain ⟨d, tail, hfilled, hd⟩ := exists_filled_eq_cons hrest hlast
    have hdne := ne_dollar_of_isBreak hd
    have hfront : ¬[36, 36] <:+: front := by
      apply hnone
      rw [hframe] at h36
      exact fun hmem => h36 (List.mem_append_left _ hmem)
    have htail : [36, 36] <:+: tail ++ [36] ↔ ∃ hole ∈ holes, [36, 36] <:+: hole.2 := by
      refine Iff.trans ?_ (ih hrest)
      rw [hfilled, List.cons_append, dollars_infix_cons]
      simp [hdne]
    rw [filled, hframe, hfilled]
    simp only [List.append_assoc, List.cons_append, List.nil_append]
    rw [dollars_infix_append hne, dollars_infix_append hdne, htail]
    simp [hfront]

end

end LiveData.Sql
