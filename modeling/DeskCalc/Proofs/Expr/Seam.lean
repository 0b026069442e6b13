import DeskCalc.Expr.Display

/-!
# Where a text may be cut

Two neighbouring characters belong to one lexeme only if both are letters, both
belong to numerals, or both are stars. Everywhere else the text may be cut: the
lexemes of the whole are those of the two parts, one after the other. Blanks
fuse with nothing and hold no lexeme, so blanks at the ends of a text change
neither its tokens nor its value.

## Main results

* `Lexeme.ofText_append` — lexemes of a text cut at a seam.
* `tokenize_append` — its tokens, or the first error.
* `tokenize_trim`, `evaluate_trim` — blanks at the ends do not count.
-/

namespace DeskCalc

namespace Lexeme

/-- Two neighbouring characters can belong to one lexeme. -/
def fuses (c d : Char) : Bool :=
  c.isAlpha && d.isAlpha || Numeral.isNumeric c && Numeral.isNumeric d || c == '*' && d == '*'

/-- No lexeme reaches from the first text into the second. -/
def Apart (a b : Text) : Prop := ∀ c ∈ a.getLast?, ∀ d ∈ b.head?, fuses c d = false

/-- A run that the first text has to itself is the same in front of the
second. -/
theorem takeWhile_dropWhile_append {p : Char → Bool} {rest b : Text}
    (h : (∀ c ∈ rest, p c = true) → ∀ d ∈ b.head?, p d = false) :
    (rest ++ b).takeWhile p = rest.takeWhile p ∧
      (rest ++ b).dropWhile p = rest.dropWhile p ++ b := by
  induction rest with
  | nil =>
      cases b with
      | nil => exact ⟨rfl, rfl⟩
      | cons d b =>
          have hNot : ¬ p d = true := by
            rw [h (by simp) d rfl]
            decide
          exact ⟨List.takeWhile_cons_of_neg hNot, List.dropWhile_cons_of_neg hNot⟩
  | cons c rest ih =>
      by_cases hc : p c = true
      · have hRest : (∀ x ∈ rest, p x = true) → ∀ d ∈ b.head?, p d = false := by
          intro hAll
          exact h (List.forall_mem_cons.2 ⟨hc, hAll⟩)
        obtain ⟨hTake, hDrop⟩ := ih hRest
        rw [List.cons_append, List.takeWhile_cons_of_pos hc, List.takeWhile_cons_of_pos hc,
          List.dropWhile_cons_of_pos hc, List.dropWhile_cons_of_pos hc, hTake, hDrop]
        exact ⟨rfl, rfl⟩
      · rw [List.cons_append, List.takeWhile_cons_of_neg hc, List.takeWhile_cons_of_neg hc,
          List.dropWhile_cons_of_neg hc, List.dropWhile_cons_of_neg hc]
        exact ⟨rfl, rfl⟩

namespace Apart

variable {a b : Text} {c : Char}

/-- What is left of the first text keeps apart as well. -/
theorem of_suffix {s : Text} (h : Apart a b) (hSuffix : s <:+ a) : Apart s b := by
  intro last hLast
  apply h
  obtain ⟨front, rfl⟩ := hSuffix
  rw [List.getLast?_append]
  cases hValue : s.getLast? with
  | none =>
      rw [hValue] at hLast
      cases hLast
  | some d =>
      rw [hValue] at hLast
      exact hLast

/-- Only the characters at the seam count. -/
theorem extend (h : Apart a b) (ha : a ≠ []) (hb : b ≠ []) (front behind : Text) :
    Apart (front ++ a) (b ++ behind) := by
  have hLast : (front ++ a).getLast? = a.getLast? := by
    rw [List.getLast?_append, Option.or_of_isSome (by simpa using ha)]
  have hHead : (b ++ behind).head? = b.head? := by
    rw [List.head?_append, Option.or_of_isSome (by simpa using hb)]
  intro c hc d hd
  rw [hLast] at hc
  rw [hHead] at hd
  exact h c hc d hd

/-- A run of characters that fuse with each other stops at the seam. -/
theorem run_stops {p : Char → Bool} (h : Apart (c :: a) b)
    (hFuse : ∀ x y, p x = true → p y = true → fuses x y = true) (hc : p c = true) :
    (∀ x ∈ a, p x = true) → ∀ d ∈ b.head?, p d = false := by
  intro hAll d hd
  obtain ⟨last, hLast⟩ : ∃ last, (c :: a).getLast? = some last :=
    ⟨_, List.getLast?_cons⟩
  have hMem := List.mem_of_getLast? hLast
  have hp : p last = true := by
    rcases List.mem_cons.1 hMem with rfl | hRest
    · exact hc
    · exact hAll last hRest
  have hNot := h last hLast d hd
  cases hValue : p d with
  | false => rfl
  | true =>
      rw [hFuse last d hp hValue] at hNot
      cases hNot

end Apart

theorem fuses_of_isAlpha (c d : Char) (hc : c.isAlpha = true) (hd : d.isAlpha = true) :
    fuses c d = true := by
  simp [fuses, hc, hd]

theorem fuses_of_isNumeric (c d : Char) (hc : Numeral.isNumeric c = true)
    (hd : Numeral.isNumeric d = true) : fuses c d = true := by
  simp [fuses, hc, hd]

/-- **A text may be cut where nothing fuses**: its lexemes are those of the two
parts. -/
theorem ofText_append {a b : Text} (h : Apart a b) : ofText (a ++ b) = ofText a ++ ofText b := by
  fun_induction ofText a with
  | case1 => rfl
  | case2 c rest hBlank ih =>
      rw [List.cons_append, ofText, if_pos hBlank]
      exact ih (h.of_suffix (List.suffix_cons c rest))
  | case3 c rest hBlank hAlpha ih =>
      have hRest : List.dropWhile Char.isAlpha rest <:+ c :: rest :=
        (List.dropWhile_suffix _).trans (List.suffix_cons c rest)
      obtain ⟨hTake, hDrop⟩ :=
        takeWhile_dropWhile_append (h.run_stops fuses_of_isAlpha hAlpha)
      rw [List.cons_append, ofText, if_neg hBlank, if_pos hAlpha, hTake, hDrop,
        ih (h.of_suffix hRest)]
      rfl
  | case4 c rest hBlank hAlpha hNumeric ih =>
      have hRest : List.dropWhile Numeral.isNumeric rest <:+ c :: rest :=
        (List.dropWhile_suffix _).trans (List.suffix_cons c rest)
      obtain ⟨hTake, hDrop⟩ :=
        takeWhile_dropWhile_append (h.run_stops fuses_of_isNumeric hNumeric)
      rw [List.cons_append, ofText, if_neg hBlank, if_neg hAlpha, if_pos hNumeric, hTake, hDrop,
        ih (h.of_suffix hRest)]
      rfl
  | case5 c rest hBlank hAlpha hNumeric hStar ih =>
      obtain ⟨rfl, hSecond⟩ := hStar
      obtain ⟨rest, rfl⟩ : ∃ tail, rest = '*' :: tail := List.head?_eq_some_iff.1 hSecond
      have hRest : rest <:+ '*' :: '*' :: rest := ⟨['*', '*'], rfl⟩
      rw [List.cons_append, List.cons_append, ofText, if_neg hBlank, if_neg hAlpha,
        if_neg hNumeric, if_pos ⟨rfl, rfl⟩]
      exact congrArg (Lexeme.doubleStar :: ·) (ih (h.of_suffix hRest))
  | case6 c rest hBlank hAlpha hNumeric hStar ih =>
      -- a lone star at the end of the first text must not meet another one
      have hSeam : ¬ (c = '*' ∧ (rest ++ b).head? = some '*') := by
        rintro ⟨rfl, hHead⟩
        cases rest with
        | nil => exact absurd (h '*' rfl '*' hHead) (by decide)
        | cons d rest => exact hStar ⟨rfl, hHead⟩
      rw [List.cons_append, ofText, if_neg hBlank, if_neg hAlpha, if_neg hNumeric, if_neg hSeam,
        ih (h.of_suffix (List.suffix_cons c rest))]
      rfl

/-! ## Blanks -/

/-- Characters that fuse are visible ASCII characters. -/
theorem code_of_fuses {c d : Char} (h : fuses c d = true) :
    (42 ≤ c.toNat ∧ c.toNat ≤ 122) ∧ 42 ≤ d.toNat ∧ d.toNat ≤ 122 := by
  have hAlpha {x : Char} (hx : x.isAlpha = true) : 42 ≤ x.toNat ∧ x.toNat ≤ 122 := by
    rcases (Bool.or_eq_true x.isUpper x.isLower).mp hx with hUpper | hLower
    · have hRange : 65 ≤ x.toNat ∧ x.toNat ≤ 90 := of_decide_eq_true hUpper
      omega
    · obtain ⟨hLow, hHigh⟩ := (Bool.and_eq_true _ _).mp hLower
      have hFrom : 97 ≤ x.toNat := of_decide_eq_true hLow
      have hTo : x.toNat ≤ 122 := of_decide_eq_true hHigh
      omega
  have hNumeric {x : Char} (hx : Numeral.isNumeric x = true) :
      42 ≤ x.toNat ∧ x.toNat ≤ 122 := by
    rw [Numeral.isNumeric, Bool.or_eq_true, beq_iff_eq, Char.isDigit, Bool.and_eq_true,
      decide_eq_true_eq, decide_eq_true_eq] at hx
    rcases hx with hDigit | rfl
    · have hRange : 48 ≤ x.toNat ∧ x.toNat ≤ 57 := hDigit
      omega
    · decide
  simp only [fuses, Bool.or_eq_true, Bool.and_eq_true, beq_iff_eq] at h
  rcases h with (⟨hc, hd⟩ | ⟨hc, hd⟩) | ⟨rfl, rfl⟩
  · exact ⟨hAlpha hc, hAlpha hd⟩
  · exact ⟨hNumeric hc, hNumeric hd⟩
  · decide

theorem code_of_isBlank {c : Char} (h : Text.isBlank c = true) :
    c.toNat ≤ 32 ∨ 133 ≤ c.toNat := by
  simp only [Text.isBlank, CodeRanges.covers, Text.blankRanges, List.any_cons, List.any_nil,
    Bool.or_false, Bool.or_eq_true, Bool.and_eq_true, decide_eq_true_eq] at h
  omega

/-- Blanks keep apart from whatever stands in front of them. -/
theorem Apart.blanks_right (a : Text) {blanks : Text}
    (h : ∀ c ∈ blanks, Text.isBlank c = true) : Apart a blanks := by
  intro c _ d hd
  have hCode := code_of_isBlank (h d (List.mem_of_mem_head? hd))
  cases hFuse : fuses c d with
  | false => rfl
  | true =>
      have := (code_of_fuses hFuse).2
      omega

/-- Blanks keep apart from whatever stands behind them. -/
theorem Apart.blanks_left {blanks : Text} (h : ∀ c ∈ blanks, Text.isBlank c = true)
    (b : Text) : Apart blanks b := by
  intro c hc d _
  have hCode := code_of_isBlank (h c (List.mem_of_getLast? hc))
  cases hFuse : fuses c d with
  | false => rfl
  | true =>
      have := (code_of_fuses hFuse).1
      omega

/-- A text has no lexeme exactly if it is blank. -/
theorem ofText_eq_nil_iff {s : Text} : ofText s = [] ↔ ∀ c ∈ s, Text.isBlank c = true := by
  fun_induction ofText s with
  | case1 => simp
  | case2 c rest hBlank ih => rw [ih, List.forall_mem_cons, and_iff_right hBlank]
  | case3 c rest hBlank => simp [hBlank]
  | case4 c rest hBlank => simp [hBlank]
  | case5 c rest hBlank => simp [hBlank]
  | case6 c rest hBlank => simp [hBlank]

end Lexeme

/-- A text is its trimmed part between blanks. -/
theorem Text.exists_blanks_trim (s : Text) :
    ∃ front back, s = front ++ s.trim ++ back ∧ (∀ c ∈ front, isBlank c = true) ∧
      ∀ c ∈ back, isBlank c = true := by
  have hBlank {t : Text} {c : Char} (hc : c ∈ t.takeWhile isBlank) : isBlank c = true :=
    List.all_eq_true.1 List.all_takeWhile c hc
  refine ⟨s.takeWhile isBlank, ((trimFront s).reverse.takeWhile isBlank).reverse, ?_, ?_, ?_⟩
  · have hTrim : s.trim = ((trimFront s).reverse.dropWhile isBlank).reverse := rfl
    have hBack : trimFront s = s.trim ++ ((trimFront s).reverse.takeWhile isBlank).reverse := by
      rw [hTrim, ← List.reverse_append, List.takeWhile_append_dropWhile, List.reverse_reverse]
    rw [List.append_assoc, ← hBack, trimFront, List.takeWhile_append_dropWhile]
  · intro c hc
    exact hBlank hc
  · intro c hc
    exact hBlank (List.mem_reverse.1 hc)

/-! ## Tokens -/

/-- **The tokens of a text cut at a seam** are those of its parts; the first
part's error comes first. -/
theorem tokenize_append {a b : Text} (h : Lexeme.Apart a b) :
    tokenize (a ++ b) = do
      let first ← tokenize a
      let second ← tokenize b
      return first ++ second := by
  rw [tokenize, Lexeme.ofText_append h, List.mapM_append]
  rfl

/-- **Blanks at the ends of a text do not change its tokens.** -/
theorem tokenize_trim (s : Text) : tokenize s.trim = tokenize s := by
  obtain ⟨front, back, hSplit, hFront, hBack⟩ := s.exists_blanks_trim
  have hLexemes : Lexeme.ofText s = Lexeme.ofText s.trim := by
    have hFrontApart := Lexeme.Apart.blanks_left hFront (s.trim ++ back)
    have hBackApart := Lexeme.Apart.blanks_right s.trim hBack
    calc Lexeme.ofText s
        = Lexeme.ofText (front ++ (s.trim ++ back)) := by rw [← List.append_assoc, ← hSplit]
      _ = Lexeme.ofText front ++ (Lexeme.ofText s.trim ++ Lexeme.ofText back) := by
          rw [Lexeme.ofText_append hFrontApart, Lexeme.ofText_append hBackApart]
      _ = Lexeme.ofText s.trim := by
          rw [Lexeme.ofText_eq_nil_iff.2 hFront, Lexeme.ofText_eq_nil_iff.2 hBack,
            List.nil_append, List.append_nil]
  rw [tokenize, tokenize, hLexemes]

/-- The value of a text, stage by stage. -/
theorem evaluate_eq (s : Text) :
    evaluate s = tokenize s >>= fun tokens => toRpn tokens >>= Rpn.evaluate := by
  rw [evaluate, analyse, tokenize_trim, bind_assoc]

/-- Texts of the same tokens have the same value. -/
theorem evaluate_congr {s t : Text} (h : tokenize t = tokenize s) : evaluate t = evaluate s := by
  rw [evaluate_eq, evaluate_eq, h]

theorem Display.evaluate_congr {s t : Text} (h : tokenize t = tokenize s) (places : Nat) :
    Display.evaluate t places = Display.evaluate s places := by
  rw [Display.evaluate, Display.evaluate, DeskCalc.evaluate_congr h]

/-- Blanks at the ends of a text do not change its value. -/
theorem evaluate_trim (s : Text) : evaluate s.trim = evaluate s :=
  evaluate_congr (tokenize_trim s)

end DeskCalc
