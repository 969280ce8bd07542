import LiveData.Core.Json.Literals

/-!
# The JSON round trip

A flat object that was written is read back member by member, whatever its texts hold
and whatever floats stand in it, provided that these are written as plain decimals.
-/

namespace LiveData.Json

variable {F : Type} {decoder : Decoder F} {floatRepr : F → Str}

/-- The scalars whose floats are written as plain decimals. -/
def Scalar.Plain (floatRepr : F → Str) : Scalar F → Prop
  | .null => True
  | .float x => FloatText (floatRepr x)
  | .string _ => True

/-- A scalar is read back under every reader of containers. -/
theorem scanTerm_encodeScalar {array object : Str → Except DecodeError (Value F × Str)}
    {x : Scalar F} (hx : x.Plain floatRepr) {rest : Str} (hs : StopsNumber rest) :
    scanTerm decoder array object (encodeScalar floatRepr x ++ rest) =
      .ok (x.toValue decoder floatRepr, rest) := by
  cases x with
  | null =>
    have hn : scanConstant decoder (110 :: (str "ull" ++ rest)) = some (.null, rest) := by
      change scanConstant decoder (str "null" ++ rest) = _
      simp [scanConstant, constants, List.firstM, stripPrefix_append]
    change scanTerm decoder array object (110 :: (str "ull" ++ rest)) = _
    simp [scanTerm, hn, Scalar.toValue]
  | float x =>
    obtain ⟨c, digits, ht, hc⟩ := FloatText.head hx
    have hu : scanUnsigned decoder false (floatRepr x ++ rest) =
        .ok (.float (decoder.parseFloat (floatRepr x)), rest) := scanUnsigned_floatText hx hs
    simp only [encodeScalar, ht, List.cons_append] at hu ⊢
    rw [scanTerm_of_digit hc, hu, Scalar.toValue, ht]
  | string s =>
    change scanTerm decoder array object (34 :: (s.flatMap encodeChar ++ [34] ++ rest)) = _
    rw [List.append_assoc, List.singleton_append]
    simp only [scanTerm, scanString_encode]
    rfl

theorem scanOnce_encodeScalar (depth : Nat) {x : Scalar F} (hx : x.Plain floatRepr) {rest : Str}
    (hs : StopsNumber rest) : scanOnce decoder depth (encodeScalar floatRepr x ++ rest) =
      .ok (x.toValue decoder floatRepr, rest) := by
  cases depth with
  | zero => exact scanTerm_encodeScalar hx hs
  | succ depth => exact scanTerm_encodeScalar hx hs

/-- An encoded scalar does not start with whitespace. -/
theorem skipWhitespace_encodeScalar {x : Scalar F} (hx : x.Plain floatRepr) (rest : Str) :
    skipWhitespace (encodeScalar floatRepr x ++ rest) = encodeScalar floatRepr x ++ rest := by
  cases x with
  | null => exact skipWhitespace_cons (by decide) _
  | float x =>
    obtain ⟨c, digits, ht, hc⟩ := FloatText.head hx
    simp only [encodeScalar, ht, List.cons_append,
      skipWhitespace_cons (isWhitespace_of_digit hc)]
  | string s => exact skipWhitespace_cons (by decide) _

/-- A member is read back. -/
theorem parseMember_encodeMember (depth : Nat) {member : Str × Scalar F}
    (hm : member.2.Plain floatRepr) {rest : Str} (hs : StopsNumber rest) :
    parseMember (scanOnce decoder depth) (encodeMember floatRepr member ++ rest) =
      .ok ((member.1, member.2.toValue decoder floatRepr), rest) := by
  obtain ⟨key, x⟩ := member
  have hsplit : encodeMember floatRepr (key, x) ++ rest =
      34 :: (key.flatMap encodeChar ++ 34 :: 58 :: (encodeScalar floatRepr x ++ rest)) := by
    simp [encodeMember, encodeString]
  have hcolon : skipWhitespace (58 :: (encodeScalar floatRepr x ++ rest)) =
      58 :: (encodeScalar floatRepr x ++ rest) := skipWhitespace_cons (by decide) _
  have hval : scanOnce decoder depth (skipWhitespace (encodeScalar floatRepr x ++ rest)) =
      .ok (x.toValue decoder floatRepr, rest) := by
    rw [skipWhitespace_encodeScalar hm, scanOnce_encodeScalar depth hm hs]
  rw [hsplit]
  simp only [parseMember, scanString_encode, ite_true, ok_bind, hcolon, hval]

theorem skipWhitespace_encodeMember (member : Str × Scalar F) (rest : Str) :
    skipWhitespace (encodeMember floatRepr member ++ rest) =
      encodeMember floatRepr member ++ rest := skipWhitespace_cons (by decide) _

/-- The members of a flat object as they are read back. -/
def readMembers (decoder : Decoder F) (floatRepr : F → Str) (members : List (Str × Scalar F)) :
    List (Str × Value F) :=
  members.map fun member => (member.1, member.2.toValue decoder floatRepr)

section

variable {α : Type} {item : Str → Except DecodeError (α × Str)} {close : Nat}

/-- The last item stands before the closing character. -/
theorem parseItems_last {s rest : Str} {a : α} (hc : isWhitespace close = false)
    (h : item s = .ok (a, close :: rest)) (fuel : Nat) :
    parseItems close item (fuel + 1) s = .ok ([a], rest) := by
  simp only [parseItems, h, ok_bind, skipWhitespace_cons hc, ite_true]

/-- A comma leads to the next item. -/
theorem parseItems_more {s t rest : Str} {a : α} {items : List α} {fuel : Nat} (hc : close ≠ 44)
    (h : item s = .ok (a, 44 :: t))
    (ht : parseItems close item fuel (skipWhitespace t) = .ok (items, rest)) :
    parseItems close item (fuel + 1) s = .ok (a :: items, rest) := by
  have hw : skipWhitespace (44 :: t) = 44 :: t := skipWhitespace_cons (by decide) t
  simp only [parseItems, h, ok_bind, hw, hc.symm, ite_true, ite_false, ht]

end

/-- The text of the members. -/
def encodeMembers (floatRepr : F → Str) (members : List (Str × Scalar F)) : Str :=
  List.intercalate [44] (members.map (encodeMember floatRepr))

theorem encodeMembers_singleton (member : Str × Scalar F) :
    encodeMembers floatRepr [member] = encodeMember floatRepr member := by
  simp [encodeMembers]

theorem encodeMembers_cons_cons (member next : Str × Scalar F) (members : List (Str × Scalar F)) :
    encodeMembers floatRepr (member :: next :: members) =
      encodeMember floatRepr member ++ 44 :: encodeMembers floatRepr (next :: members) := by
  simp [encodeMembers]

theorem skipWhitespace_encodeMembers (member : Str × Scalar F) (members : List (Str × Scalar F))
    (rest : Str) : skipWhitespace (encodeMembers floatRepr (member :: members) ++ rest) =
      encodeMembers floatRepr (member :: members) ++ rest := by
  cases members with
  | nil => rw [encodeMembers_singleton, skipWhitespace_encodeMember]
  | cons next members =>
    rw [encodeMembers_cons_cons, List.append_assoc, skipWhitespace_encodeMember]

/-- The written members are read one by one up to the closing brace. -/
theorem parseItems_encodeMembers (depth : Nat) (members : List (Str × Scalar F))
    (member : Str × Scalar F) (h : ∀ m ∈ member :: members, m.2.Plain floatRepr) (rest : Str) :
    ∀ fuel, members.length < fuel → parseItems 125 (parseMember (scanOnce decoder depth)) fuel
      (encodeMembers floatRepr (member :: members) ++ 125 :: rest) =
        .ok (readMembers decoder floatRepr (member :: members), rest) := by
  induction members generalizing member with
  | nil =>
    intro fuel hf
    obtain ⟨fuel, rfl⟩ : ∃ k, fuel = k + 1 := ⟨fuel - 1, by omega⟩
    have hstop : StopsNumber (125 :: rest) := by simp [StopsNumber, isDigit]
    rw [encodeMembers_singleton]
    exact parseItems_last (by decide)
      (parseMember_encodeMember depth (h member (by simp)) hstop) fuel
  | cons next members ih =>
    intro fuel hf
    obtain ⟨fuel, rfl⟩ : ∃ k, fuel = k + 1 := ⟨fuel - 1, by omega⟩
    have htail := ih next (fun m hm => h m (by simp [hm])) fuel (by simpa using hf)
    have hstop : StopsNumber (44 :: (encodeMembers floatRepr (next :: members) ++ 125 :: rest)) :=
      by simp [StopsNumber, isDigit]
    rw [encodeMembers_cons_cons, List.append_assoc, List.cons_append]
    refine parseItems_more (by decide)
      (parseMember_encodeMember depth (h member (by simp)) hstop) ?_
    rw [skipWhitespace_encodeMembers]
    exact htail

/-- The members of a written object are read back. -/
theorem parseContainer_encodeMembers (depth : Nat) (members : List (Str × Scalar F))
    (h : ∀ m ∈ members, m.2.Plain floatRepr) (rest : Str) :
    parseContainer 125 (parseMember (scanOnce decoder depth))
      (encodeMembers floatRepr members ++ 125 :: rest) =
        .ok (readMembers decoder floatRepr members, rest) := by
  cases members with
  | nil =>
    have hw : skipWhitespace (125 :: rest) = 125 :: rest := skipWhitespace_cons (by decide) rest
    change parseContainer 125 _ (125 :: rest) = _
    simp only [parseContainer, hw, ite_true]
    rfl
  | cons member members =>
    have hskip : skipWhitespace (encodeMembers floatRepr (member :: members) ++ 125 :: rest) =
        encodeMembers floatRepr (member :: members) ++ 125 :: rest :=
      skipWhitespace_encodeMembers member members (125 :: rest)
    obtain ⟨tail, ht⟩ : ∃ tail, encodeMembers floatRepr (member :: members) ++ 125 :: rest =
        34 :: tail := by
      cases members with
      | nil => exact ⟨_, by rw [encodeMembers_singleton]; rfl⟩
      | cons next members => exact ⟨_, by rw [encodeMembers_cons_cons]; rfl⟩
    have hitems : ∀ fuel, members.length < fuel → parseItems 125
        (parseMember (scanOnce decoder depth)) fuel
        (encodeMembers floatRepr (member :: members) ++ 125 :: rest) =
          .ok (readMembers decoder floatRepr (member :: members), rest) :=
      parseItems_encodeMembers depth members member h rest
    rw [ht] at hskip hitems ⊢
    rw [parseContainer_eq (parseMember_consumes (scanOnce_consumes depth)) hskip (by decide)
      (Nat.lt_add_left members.length (Nat.lt_succ_self _))]
    exact hitems _ (by omega)

/-- A flat object is read back, later members overwriting earlier ones of their key. -/
theorem loads_dumps (h1 : 0 < decoder.recursionLimit) (members : List (Str × Scalar F))
    (h : ∀ m ∈ members, m.2.Plain floatRepr) : loads decoder (dumps floatRepr members) =
      .ok (.object (Dict.ofItems (readMembers decoder floatRepr members))) := by
  obtain ⟨depth, hd⟩ : ∃ k, decoder.recursionLimit = k + 1 :=
    ⟨decoder.recursionLimit - 1, by omega⟩
  have hdumps : dumps floatRepr members = 123 :: (encodeMembers floatRepr members ++ [125]) := rfl
  have hw : skipWhitespace (123 :: (encodeMembers floatRepr members ++ [125])) =
      123 :: (encodeMembers floatRepr members ++ [125]) := skipWhitespace_cons (by decide) _
  have hitems : parseContainer 125 (parseMember (scanOnce decoder depth))
      (encodeMembers floatRepr members ++ [125]) =
        .ok (readMembers decoder floatRepr members, []) :=
    parseContainer_encodeMembers depth members h []
  have hscan : scanOnce decoder (depth + 1) (123 :: (encodeMembers floatRepr members ++ [125])) =
      .ok (.object (Dict.ofItems (readMembers decoder floatRepr members)), []) := by
    change (parseContainer 125 _ _ >>= _) = _
    rw [hitems]
    rfl
  have hnil : skipWhitespace [] = [] := rfl
  rw [loads, hdumps, hd, hw]
  simp only [List.head?_cons, hscan, ok_bind, hnil, ite_true]
  rfl

/-- A flat object with distinct keys is read back unchanged. -/
theorem loads_dumps_of_nodup (h1 : 0 < decoder.recursionLimit) {members : List (Str × Scalar F)}
    (h : ∀ m ∈ members, m.2.Plain floatRepr) (hk : (Dict.keys members).Nodup) :
    loads decoder (dumps floatRepr members) =
      .ok (.object (readMembers decoder floatRepr members)) := by
  have hkeys : Dict.keys (readMembers decoder floatRepr members) = Dict.keys members := by
    simp [Dict.keys, readMembers]
  rw [loads_dumps h1 members h, Dict.ofItems_of_nodup (by rwa [hkeys])]

end LiveData.Json
