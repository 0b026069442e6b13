import DeskCalc.Proofs.Settings.Scalar

/-!
# Keys

A quoted key ends at the first quote that no backslash stands in front of, a bare
one at the first character that cannot stand in it. Behind a key of the grammar
the reader therefore finds exactly the rest, and what it reads as a key is one of
the grammar.

## Main results

* `quoted?_sound`, `quoted?_append`, `literal?_eq_some_iff` — quoted keys.
* `key?_sound`, `key?_append` — keys of any kind.
-/

namespace DeskCalc.Toml

variable {c : Char} {s rest key : Text}

/-! ## Characters -/

theorem isForbidden_eq_false_iff : Document.isForbidden c = false ↔ IsPrintable c := by
  unfold Document.isForbidden IsPrintable
  constructor
  · intro h
    by_cases hTab : c = '\t'
    · exact .inl hTab
    · simp [hTab] at h
      exact .inr h
  · rintro (rfl | ⟨hLow, hDelete⟩)
    · rfl
    · simp [hLow, hDelete]

theorem isBare_iff : Document.isBare c = true ↔ IsBare c := by
  simp [Document.isBare, IsBare, or_assoc]

theorem escaped?_eq_some_iff {letter : Char} :
    Document.escaped? letter = some c ↔ (letter, c) ∈ shortEscapes := by
  constructor
  · intro h
    unfold Document.escaped? at h
    split at h <;> cases h <;> decide
  · intro h
    have hAll : shortEscapes.all fun pair => Document.escaped? pair.1 == some pair.2 := by decide
    exact beq_iff_eq.1 (List.all_eq_true.1 hAll _ h)

theorem coded?_eq_some_iff : Document.coded? s = some c ↔ Number 16 s c.toNat := by
  unfold Document.coded?
  rw [← digits?_eq_some_iff (by decide)]
  constructor
  · intro h
    obtain ⟨n, hDigits, hChar⟩ := Option.bind_eq_some_iff.1 h
    obtain ⟨hValid, hCode⟩ := Option.ite_none_right_eq_some.1 hChar
    have hChar : Char.ofNat n = Char.ofNatAux n hValid := dif_pos hValid
    have hSame : (Char.ofNatAux n hValid).toNat = n := rfl
    rw [← Option.some.inj hCode, hChar, hSame, hDigits]
  · intro h
    have hValid : c.toNat.isValidChar := c.valid
    rw [h]
    show (if c.toNat.isValidChar then some (Char.ofNat c.toNat) else none) = some c
    rw [if_pos hValid, Char.ofNat_toNat]

/-! ## Quoted keys -/

theorem quoted?_plain (hPrintable : IsPrintable c) (hQuote : c ≠ '"') (hEscape : c ≠ '\\')
    (s : Text) : Document.quoted? (c :: s) = (Document.quoted? s).map (Document.consRead c) := by
  rw [Document.quoted?, isForbidden_eq_false_iff.2 hPrintable]
  · rfl
  · exact hQuote
  all_goals
    intros
    contradiction

theorem quoted?_short {letter : Char} (h : Document.escaped? letter = some c) (s : Text) :
    Document.quoted? ('\\' :: letter :: s) = (Document.quoted? s).map (Document.consRead c) := by
  rw [Document.quoted?, h]
  · cases Document.quoted? s <;> rfl
  -- None of the letters for codes is among the letters that stand for one character.
  all_goals
    intros
    subst letter
    cases h

theorem quoted?_code {letter : Char} {code : Text} (hLength : (letter, code.length) ∈ codeLengths)
    (h : Document.coded? code = some c) (s : Text) :
    Document.quoted? ('\\' :: letter :: (code ++ s)) =
      (Document.quoted? s).map (Document.consRead c) := by
  simp only [codeLengths, List.mem_cons, Prod.mk.injEq, List.not_mem_nil, or_false] at hLength
  rcases hLength with ⟨rfl, hTwo⟩ | ⟨rfl, hFour⟩ | ⟨rfl, hEight⟩
  · match code, hTwo with
    | [a, b], _ =>
        show Document.quoted? ('\\' :: 'x' :: a :: b :: s) = _
        rw [Document.quoted?, h]
        cases Document.quoted? s <;> rfl
  · match code, hFour with
    | [a, b, c, d], _ =>
        show Document.quoted? ('\\' :: 'u' :: a :: b :: c :: d :: s) = _
        rw [Document.quoted?, h]
        cases Document.quoted? s <;> rfl
  · match code, hEight with
    | [a, b, c, d, e, f, g, i], _ =>
        show Document.quoted? ('\\' :: 'U' :: a :: b :: c :: d :: e :: f :: g :: i :: s) = _
        rw [Document.quoted?, h]
        cases Document.quoted? s <;> rfl

theorem quoted?_escape {e : Text} (h : Escape e c) (s : Text) :
    Document.quoted? ('\\' :: (e ++ s)) = (Document.quoted? s).map (Document.consRead c) := by
  cases h with
  | short hShort => exact quoted?_short (escaped?_eq_some_iff.2 hShort) s
  | code hLength hCode => exact quoted?_code hLength (coded?_eq_some_iff.2 hCode) s

/-- **A quoted key is read up to its closing quote.** -/
theorem quoted?_append (h : Quoted s key) (rest : Text) :
    Document.quoted? (s ++ '"' :: rest) = some (key, rest) := by
  induction h with
  | nil => rfl
  | plain hPrintable hQuote hEscape h ih =>
      rw [List.cons_append, quoted?_plain hPrintable hQuote hEscape, ih]
      rfl
  | escape hEscape h ih =>
      rw [List.cons_append, List.append_assoc, quoted?_escape hEscape, ih]
      rfl

theorem quoted?_sound {t : Text} (h : Document.quoted? t = some (key, rest)) :
    ∃ s, Quoted s key ∧ t = s ++ '"' :: rest := by
  have hEscape {e u : Text} {c : Char} (hChar : Escape e c)
      (ih : ∀ {key : Text}, Document.quoted? u = some (key, rest) →
        ∃ s, Quoted s key ∧ u = s ++ '"' :: rest)
      {key : Text} (hRead : (do return Document.consRead c (← Document.quoted? u)) =
        some (key, rest)) : ∃ s, Quoted s key ∧ '\\' :: (e ++ u) = s ++ '"' :: rest := by
    obtain ⟨⟨tail, after⟩, hTail, hCons⟩ := Option.bind_eq_some_iff.1 hRead
    cases hCons
    obtain ⟨s, hs, rfl⟩ := ih hTail
    exact ⟨_, .escape hChar hs, by simp⟩
  fun_induction Document.quoted? t generalizing key with
  | case1 => cases h
  | case2 => 
      cases h
      exact ⟨[], .nil, rfl⟩
  | case3 a b u ih =>
      obtain ⟨c, hCode, hRead⟩ := Option.bind_eq_some_iff.1 h
      have hLength : ('x', [a, b].length) ∈ codeLengths := List.mem_cons_self
      exact hEscape (.code hLength (coded?_eq_some_iff.1 hCode)) ih hRead
  | case4 a b c d u ih =>
      obtain ⟨c, hCode, hRead⟩ := Option.bind_eq_some_iff.1 h
      exact hEscape (.code (by simp [codeLengths]) (coded?_eq_some_iff.1 hCode)) ih hRead
  | case5 a b c d e f g i u ih =>
      obtain ⟨c, hCode, hRead⟩ := Option.bind_eq_some_iff.1 h
      exact hEscape (.code (by simp [codeLengths]) (coded?_eq_some_iff.1 hCode)) ih hRead
  | case6 letter u _ _ _ ih =>
      obtain ⟨c, hShort, hRead⟩ := Option.bind_eq_some_iff.1 h
      exact hEscape (.short (escaped?_eq_some_iff.1 hShort)) ih hRead
  | case7 => cases h
  | case8 c u hQuote _ _ _ hBackslash hAllowed ih =>
      obtain ⟨⟨tail, after⟩, hTail, hCons⟩ := Option.map_eq_some_iff.1 h
      cases hCons
      obtain ⟨s, hs, rfl⟩ := ih hTail
      have hPrintable := isForbidden_eq_false_iff.1 (Bool.eq_false_of_not_eq_true hAllowed)
      -- A backslash with nothing behind it would leave no closing quote.
      have hOther : c ≠ '\\' := by
        intro hc
        obtain ⟨first, more, hCons⟩ : ∃ first more, s ++ '"' :: after = first :: more :=
          List.exists_cons_of_ne_nil (by simp)
        exact hBackslash first more hc hCons
      exact ⟨c :: s, .plain hPrintable hQuote hOther hs, rfl⟩

/-- **A literal key is read up to the next quote.** -/
theorem literal?_eq_some_iff {t : Text} :
    Document.literal? t = some (key, rest) ↔
      t = key ++ '\'' :: rest ∧ ∀ c ∈ key, IsPrintable c ∧ c ≠ '\'' := by
  constructor
  · intro h
    fun_induction Document.literal? t generalizing key with
    | case1 => cases h
    | case2 u =>
        cases h
        exact ⟨rfl, by simp⟩
    | case3 => cases h
    | case4 c u hQuote hAllowed ih =>
        obtain ⟨⟨tail, after⟩, hTail, hCons⟩ := Option.map_eq_some_iff.1 h
        cases hCons
        obtain ⟨rfl, hAll⟩ := ih hTail
        have hPrintable := isForbidden_eq_false_iff.1 (Bool.eq_false_of_not_eq_true hAllowed)
        refine ⟨rfl, ?_⟩
        rintro d (_ | ⟨_, hd⟩)
        · exact ⟨hPrintable, hQuote⟩
        · exact hAll d hd
  · rintro ⟨rfl, hAll⟩
    induction key with
    | nil => rfl
    | cons c tail ih =>
        obtain ⟨hPrintable, hQuote⟩ := hAll c List.mem_cons_self
        rw [List.cons_append, Document.literal?, if_neg hQuote,
          isForbidden_eq_false_iff.2 hPrintable, ih fun d hd => hAll d (List.mem_cons_of_mem c hd)]
        rfl

/-! ## Keys of any kind -/

/-- **What is read as a key is one.** -/
theorem key?_sound {t : Text} (h : Document.key? t = some (key, rest)) :
    ∃ s, Key s key ∧ t = s ++ rest := by
  unfold Document.key? at h
  split at h
  next u =>
    obtain ⟨s, hs, rfl⟩ := quoted?_sound h
    exact ⟨_, .quoted hs, by simp⟩
  next u =>
    obtain ⟨rfl, hAll⟩ := literal?_eq_some_iff.1 h
    exact ⟨_, .literal hAll, by simp⟩
  next =>
    obtain ⟨hNonempty, hBare⟩ := Option.ite_none_left_eq_some.1 h
    cases hBare
    refine ⟨_, .bare (fun hNil => hNonempty (List.isEmpty_iff.2 hNil)) ?_,
      List.takeWhile_append_dropWhile.symm⟩
    intro c hc
    exact isBare_iff.1 (List.all_eq_true.1 List.all_takeWhile c hc)

/-- **A key is read up to its end**, if no character follows that it could go on
with. -/
theorem key?_append (h : Key s key) (hEnd : ∀ c ∈ rest.head?, ¬ IsBare c) :
    Document.key? (s ++ rest) = some (key, rest) := by
  cases h with
  | bare hNonempty hAll =>
      obtain ⟨first, tail, rfl⟩ := List.exists_cons_of_ne_nil hNonempty
      have hRun : ∀ c ∈ first :: tail, Document.isBare c = true := by
        intro c hc
        exact isBare_iff.2 (hAll c hc)
      have hStops : ∀ c, rest.head? = some c → Document.isBare c = false := by
        intro c hc
        exact Bool.eq_false_of_not_eq_true fun hBare => hEnd c hc (isBare_iff.1 hBare)
      obtain ⟨hTake, hDrop⟩ := Text.takeWhile_dropWhile_run hRun hStops
      rw [List.cons_append] at hTake hDrop ⊢
      unfold Document.key?
      split
      next hQuote =>
        cases hQuote
        exact absurd (hRun '"' List.mem_cons_self) (by decide)
      next hQuote =>
        cases hQuote
        exact absurd (hRun '\'' List.mem_cons_self) (by decide)
      next =>
        rw [hTake, hDrop]
        rfl
  | quoted hQuoted =>
      rw [List.cons_append, List.append_assoc]
      exact quoted?_append hQuoted rest
  | literal hAll =>
      rw [List.cons_append, List.append_assoc]
      exact literal?_eq_some_iff.2 ⟨rfl, hAll⟩

end DeskCalc.Toml
