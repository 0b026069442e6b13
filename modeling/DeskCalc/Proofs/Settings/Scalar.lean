import Mathlib.Data.List.Forall2
import Mathlib.Data.List.Induction
import DeskCalc.Proofs.Settings.Grammar

/-!
# Integers and booleans

The reader cuts digits at underscores and adds them up from the left; the grammar
puts underscores between groups and takes the value of all digits at once. Both
directions go through the groups. A prefix can be told from a decimal number since
that has no superfluous zero in front.

## Main results

* `grouped?_eq_some_iff`, `integer?_eq_some_iff` — numbers are read as the grammar
  names them.
* `scalar?_eq_some_iff` — and so are the values of settings.
-/

namespace DeskCalc

/-- The results of one list are those of its members. -/
theorem mapM_eq_some_iff {α β : Type} {f : α → Option β} {xs : List α} {ys : List β} :
    xs.mapM f = some ys ↔ List.Forall₂ (fun x y => f x = some y) xs ys := by
  induction xs generalizing ys with
  | nil =>
      rw [List.forall₂_nil_left_iff, List.mapM_nil]
      constructor
      · rintro ⟨⟩
        rfl
      · rintro rfl
        rfl
  | cons x xs ih =>
      rw [List.mapM_cons, List.forall₂_cons_left_iff]
      constructor
      · intro h
        obtain ⟨y, hy, hRest⟩ := Option.bind_eq_some_iff.1 h
        obtain ⟨rest, hMap, hAll⟩ := Option.bind_eq_some_iff.1 hRest
        cases hAll
        exact ⟨y, rest, hy, ih.1 hMap, rfl⟩
      · rintro ⟨y, rest, hy, hRest, rfl⟩
        rw [hy, ih.2 hRest]
        rfl

namespace Toml

variable {base : Nat} {c : Char} {d n : Nat} {s : Text}

/-! ## Digits -/

theorem IsDigit.isAlphanum (hBase : base ≤ 16) (h : IsDigit base c d) : c.isAlphanum = true := by
  have hAll : ∀ d : Fin 16, d.val.digitChar.isAlphanum = true ∧
      d.val.digitChar.toUpper.isAlphanum = true := by
    decide
  obtain ⟨hDigit, rfl | rfl⟩ := h
  · exact (hAll ⟨d, hDigit.trans_le hBase⟩).1
  · exact (hAll ⟨d, hDigit.trans_le hBase⟩).2

/-- A character of a range has the next codes behind the first. -/
theorem exists_of_range {first last : Char} (hFirst : first ≤ c) (hLast : c ≤ last) :
    ∃ k ≤ last.toNat - first.toNat, c.toNat = first.toNat + k ∧
      c = Char.ofNat (first.toNat + k) := by
  have hLow : first.toNat ≤ c.toNat := hFirst
  have hHigh : c.toNat ≤ last.toNat := hLast
  refine ⟨c.toNat - first.toNat, by omega, by omega, ?_⟩
  rw [Nat.add_sub_cancel' hLow, Char.ofNat_toNat]

theorem digit?_sound (h : Document.digit? base c = some d) : IsDigit base c d := by
  have hDecimal : ∀ k : Fin 10, Char.ofNat ('0'.toNat + k) = k.val.digitChar := by decide
  have hLower : ∀ k : Fin 6, Char.ofNat ('a'.toNat + k) = (k.val + 10).digitChar := by decide
  have hUpper : ∀ k : Fin 6, Char.ofNat ('A'.toNat + k) = (k.val + 10).digitChar.toUpper := by
    decide
  unfold Document.digit? at h
  obtain ⟨hSmall, hValue⟩ := Option.ite_none_right_eq_some.1 h
  have hValue := Option.some.inj hValue
  rw [hValue] at hSmall
  refine ⟨hSmall, ?_⟩
  split at hValue
  next hRange =>
    have hBounds : '0' ≤ c ∧ c ≤ '9' := by
      simpa [Char.isDigit, Char.le_def] using hRange
    obtain ⟨k, hLast, hCode, hChar⟩ := exists_of_range hBounds.1 hBounds.2
    rw [hCode, Nat.add_sub_cancel_left] at hValue
    rw [hChar, ← hValue]
    exact .inl (hDecimal ⟨k, Nat.lt_succ_of_le hLast⟩)
  next =>
    split at hValue
    next hRange =>
      obtain ⟨k, hLast, hCode, hChar⟩ := exists_of_range hRange.1 hRange.2
      rw [hCode, Nat.add_sub_cancel_left] at hValue
      rw [hChar, ← hValue]
      exact .inl (hLower ⟨k, Nat.lt_succ_of_le hLast⟩)
    next =>
      split at hValue
      next hRange =>
        obtain ⟨k, hLast, hCode, hChar⟩ := exists_of_range hRange.1 hRange.2
        rw [hCode, Nat.add_sub_cancel_left] at hValue
        rw [hChar, ← hValue]
        exact .inr (hUpper ⟨k, Nat.lt_succ_of_le hLast⟩)
      next => omega

/-- **A digit is read as the grammar names it**, in any base up to sixteen. -/
theorem digit?_eq_some_iff (hBase : base ≤ 16) :
    Document.digit? base c = some d ↔ IsDigit base c d := by
  constructor
  · exact digit?_sound
  · rintro ⟨hSmall, hChar⟩
    have hAll : ∀ base : Fin 17, ∀ d : Fin 16, d.val < base.val →
        Document.digit? base d.val.digitChar = some d.val ∧
          Document.digit? base d.val.digitChar.toUpper = some d.val := by
      decide +kernel
    have hBoth := hAll ⟨base, by omega⟩ ⟨d, by omega⟩ hSmall
    rcases hChar with rfl | rfl
    · exact hBoth.1
    · exact hBoth.2

/-- Adding digits up from the left gives their value. -/
theorem foldl_eq_ofDigits (base : Nat) (digits : List Nat) :
    digits.foldl (fun n d => base * n + d) 0 = Nat.ofDigits base digits.reverse := by
  induction digits using List.reverseRecOn with
  | nil => rfl
  | append_singleton digits d ih =>
      rw [List.foldl_append, ih, List.reverse_append]
      show base * _ + d = Nat.ofDigits base (d :: digits.reverse)
      rw [Nat.ofDigits_cons, Nat.add_comm]

theorem digits?_eq_some_iff (hBase : base ≤ 16) :
    Document.digits? base s = some n ↔ Number base s n := by
  have hSame : (fun c d => Document.digit? base c = some d) = IsDigit base := by
    funext c d
    exact propext (digit?_eq_some_iff hBase)
  unfold Document.digits? Number
  constructor
  · intro h
    obtain ⟨digits, hDigits, hValue⟩ := Option.bind_eq_some_iff.1 h
    cases hValue
    have hAll := mapM_eq_some_iff.1 hDigits
    rw [hSame] at hAll
    exact ⟨digits, hAll, foldl_eq_ofDigits base digits⟩
  · rintro ⟨digits, hAll, rfl⟩
    rw [← hSame] at hAll
    rw [mapM_eq_some_iff.2 hAll, ← foldl_eq_ofDigits]
    rfl

theorem Number.isAlphanum (hBase : base ≤ 16) (h : Number base s n) :
    ∀ c ∈ s, c.isAlphanum = true := by
  obtain ⟨digits, hAll, -⟩ := h
  intro c hc
  obtain ⟨i, hi, rfl⟩ := List.getElem_of_mem hc
  have hLength := hAll.length_eq
  exact IsDigit.isAlphanum hBase (hAll.get hi (hLength ▸ hi))

/-! ## Integers -/

/-- **Digits in groups are read as the grammar names them.** -/
theorem grouped?_eq_some_iff (hBase : base ≤ 16) :
    Document.grouped? base s = some n ↔ Grouped base s n := by
  unfold Document.grouped?
  rw [Text.splitOn_eq]
  constructor
  · intro h
    obtain ⟨hGroups, hDigits⟩ := Option.ite_none_left_eq_some.1 h
    refine ⟨List.splitOn '_' s, List.splitOn_ne_nil '_' s, ?_, (List.intercalate_splitOn '_').symm,
      (digits?_eq_some_iff hBase).1 hDigits⟩
    rintro group hGroup rfl
    exact hGroups (List.any_eq_true.2 ⟨[], hGroup, rfl⟩)
  · rintro ⟨groups, hNonempty, hGroups, rfl, hNumber⟩
    have hFree : ∀ group ∈ groups, '_' ∉ group := by
      intro group hGroup hMem
      have hAlphanum := hNumber.isAlphanum hBase '_' (List.mem_flatten.2 ⟨group, hGroup, hMem⟩)
      exact absurd hAlphanum (by decide)
    rw [List.splitOn_intercalate '_' hFree hNonempty]
    dsimp only
    have hAny : groups.any List.isEmpty = false := by
      rw [List.any_eq_false]
      intro group hGroup hEmpty
      exact hGroups group hGroup (List.isEmpty_iff.1 hEmpty)
    rw [hAny, (digits?_eq_some_iff hBase).2 hNumber]
    rfl

/-- What joins pieces is a piece's or the separator's. -/
theorem mem_intercalate {separator : Char} {pieces : List Text}
    (h : c ∈ [separator].intercalate pieces) : c = separator ∨ ∃ piece ∈ pieces, c ∈ piece := by
  induction pieces with
  | nil => cases h
  | cons first rest ih =>
      cases rest with
      | nil =>
          rw [List.intercalate_singleton] at h
          exact .inr ⟨first, List.mem_singleton_self first, h⟩
      | cons second rest =>
          rw [List.intercalate_cons_cons, List.append_assoc] at h
          rcases List.mem_append.1 h with hFirst | hLater
          · exact .inr ⟨first, List.mem_cons_self, hFirst⟩
          rcases List.mem_cons.1 hLater with hSeparator | hRest
          · exact .inl hSeparator
          rcases ih hRest with hSeparator | ⟨piece, hPiece, hMem⟩
          · exact .inl hSeparator
          · exact .inr ⟨piece, List.mem_cons_of_mem first hPiece, hMem⟩

theorem Grouped.chars (hBase : base ≤ 16) (h : Grouped base s n) :
    ∀ c ∈ s, c.isAlphanum = true ∨ c = '_' := by
  obtain ⟨groups, -, -, rfl, hNumber⟩ := h
  intro c hc
  rcases mem_intercalate hc with hSeparator | ⟨group, hGroup, hMem⟩
  · exact .inr hSeparator
  · exact .inl (hNumber.isAlphanum hBase c (List.mem_flatten.2 ⟨group, hGroup, hMem⟩))

/-- A number begins with a digit. -/
theorem Grouped.exists_cons (hBase : base ≤ 16) (h : Grouped base s n) :
    ∃ c rest, s = c :: rest ∧ c.isAlphanum = true := by
  obtain ⟨groups, hNonempty, hGroups, rfl, hNumber⟩ := h
  obtain ⟨first, rest, rfl⟩ := List.exists_cons_of_ne_nil hNonempty
  obtain ⟨c, tail, rfl⟩ := List.exists_cons_of_ne_nil (hGroups first List.mem_cons_self)
  have hDigit : c.isAlphanum = true := by
    apply hNumber.isAlphanum hBase
    simp
  cases rest with
  | nil => exact ⟨c, tail, List.intercalate_singleton, hDigit⟩
  | cons second rest =>
      rw [List.intercalate_cons_cons]
      exact ⟨c, _, rfl, hDigit⟩

section Integer

variable {n : Int}

/-- Without a zero in front there is no prefix. -/
theorem integer?_of_splitSign {negative : Bool} {digits : Text} (hHead : s.head? ≠ some '0')
    (hSplit : Digits.splitSign s = (negative, digits)) :
    Document.integer? s =
      if digits.head? = some '0' ∧ digits ≠ ['0'] then none
      else (Document.grouped? 10 digits).map fun k : Nat => if negative then -(k : Int) else k := by
  unfold Document.integer?
  split
  · exact absurd rfl hHead
  · exact absurd rfl hHead
  · exact absurd rfl hHead
  · rw [hSplit]
    dsimp only
    cases Document.grouped? 10 digits <;> rfl

theorem splitSign_cases (s : Text) :
    (∃ rest, s = '-' :: rest ∧ Digits.splitSign s = (true, rest)) ∨
    (∃ rest, s = '+' :: rest ∧ Digits.splitSign s = (false, rest)) ∨
    Digits.splitSign s = (false, s) := by
  unfold Digits.splitSign
  split
  · exact .inl ⟨_, rfl, rfl⟩
  · exact .inr (.inl ⟨_, rfl, rfl⟩)
  · exact .inr (.inr rfl)

theorem unsigned_iff {n : Nat} :
    Unsigned s n ↔ ¬ (s.head? = some '0' ∧ s ≠ ['0']) ∧ Document.grouped? 10 s = some n := by
  rw [grouped?_eq_some_iff (by decide)]
  constructor
  · intro h
    exact ⟨fun hZero => hZero.2 (h.leading hZero.1), h.grouped⟩
  · rintro ⟨hZero, hGrouped⟩
    exact ⟨hGrouped, fun hHead => by_contra fun hOther => hZero ⟨hHead, hOther⟩⟩

theorem integer?_sound (h : Document.integer? s = some n) : Integer s n := by
  unfold Document.integer? at h
  split at h
  · obtain ⟨k, hDigits, rfl⟩ := Option.map_eq_some_iff.1 h
    exact .hexadecimal ((grouped?_eq_some_iff (by decide)).1 hDigits)
  · obtain ⟨k, hDigits, rfl⟩ := Option.map_eq_some_iff.1 h
    exact .octal ((grouped?_eq_some_iff (by decide)).1 hDigits)
  · obtain ⟨k, hDigits, rfl⟩ := Option.map_eq_some_iff.1 h
    exact .binary ((grouped?_eq_some_iff (by decide)).1 hDigits)
  · have hCases := splitSign_cases s
    rcases hSplit : Digits.splitSign s with ⟨negative, digits⟩
    rw [hSplit] at h hCases
    obtain ⟨hZero, hMap⟩ := Option.ite_none_left_eq_some.1 h
    obtain ⟨m, hCast, hSign⟩ := Option.map_eq_some_iff.1 hMap
    obtain ⟨k, hDigits, hk⟩ := Option.bind_eq_some_iff.1 hCast
    cases hk
    have hUnsigned := unsigned_iff.2 ⟨hZero, hDigits⟩
    rcases hCases with ⟨rest, rfl, hMinus⟩ | ⟨rest, rfl, hPlus⟩ | hPlain
    · cases hMinus
      cases hSign
      exact .negative hUnsigned
    · cases hPlus
      cases hSign
      exact .positive hUnsigned
    · cases hPlain
      cases hSign
      exact .unsigned hUnsigned

/-- **An integer is read as the grammar names it.** -/
theorem integer?_eq_some_iff : Document.integer? s = some n ↔ Integer s n := by
  constructor
  · exact integer?_sound
  · intro h
    cases h with
    | hexadecimal hGrouped =>
        show (Document.grouped? 16 _).map Int.ofNat = _
        rw [(grouped?_eq_some_iff (by decide)).2 hGrouped]
        rfl
    | octal hGrouped =>
        show (Document.grouped? 8 _).map Int.ofNat = _
        rw [(grouped?_eq_some_iff (by decide)).2 hGrouped]
        rfl
    | binary hGrouped =>
        show (Document.grouped? 2 _).map Int.ofNat = _
        rw [(grouped?_eq_some_iff (by decide)).2 hGrouped]
        rfl
    | unsigned hUnsigned =>
        obtain ⟨hZero, hDigits⟩ := unsigned_iff.1 hUnsigned
        by_cases hHead : s.head? = some '0'
        · rw [hUnsigned.leading hHead] at hDigits ⊢
          have hValue : Document.grouped? 10 ['0'] = some 0 := by decide
          cases hDigits.symm.trans hValue
          decide
        · obtain ⟨c, rest, hCons, hDigit⟩ := hUnsigned.grouped.exists_cons (by decide)
          have hSplit : Digits.splitSign s = (false, s) := by
            rcases splitSign_cases s with ⟨tail, rfl, -⟩ | ⟨tail, rfl, -⟩ | hSplit
            · cases hCons
              exact absurd hDigit (by decide)
            · cases hCons
              exact absurd hDigit (by decide)
            · exact hSplit
          rw [integer?_of_splitSign hHead hSplit, if_neg hZero, hDigits]
          rfl
    | @positive s k hUnsigned =>
        obtain ⟨hZero, hDigits⟩ := unsigned_iff.1 hUnsigned
        have hSplit : Digits.splitSign ('+' :: s) = (false, s) := rfl
        rw [integer?_of_splitSign (by simp) hSplit, if_neg hZero, hDigits]
        rfl
    | @negative s k hUnsigned =>
        obtain ⟨hZero, hDigits⟩ := unsigned_iff.1 hUnsigned
        have hSplit : Digits.splitSign ('-' :: s) = (true, s) := rfl
        rw [integer?_of_splitSign (by simp) hSplit, if_neg hZero, hDigits]
        rfl

theorem Integer.chars (h : Integer s n) :
    ∀ c ∈ s, c.isAlphanum = true ∨ c = '_' ∨ c = '+' ∨ c = '-' := by
  have hGrouped {base k : Nat} {s : Text} (hBase : base ≤ 16) (h : Grouped base s k) :
      ∀ c ∈ s, c.isAlphanum = true ∨ c = '_' ∨ c = '+' ∨ c = '-' := by
    intro c hc
    exact (h.chars hBase c hc).imp_right .inl
  cases h with
  | hexadecimal h => simpa using hGrouped (by decide) h
  | octal h => simpa using hGrouped (by decide) h
  | binary h => simpa using hGrouped (by decide) h
  | unsigned h => exact hGrouped (by decide) h.grouped
  | positive h => simpa using hGrouped (by decide) h.grouped
  | negative h => simpa using hGrouped (by decide) h.grouped

end Integer

/-! ## The values of settings -/

/-- **A value of a setting is read as the grammar names it.** -/
theorem scalar?_eq_some_iff {value : Scalar} :
    Document.scalar? s = some value ↔ IsScalar s value := by
  unfold Document.scalar?
  constructor
  · intro h
    split at h
    next hTrue =>
      cases h
      rw [hTrue]
      exact .yes
    next =>
      split at h
      next hFalse =>
        cases h
        rw [hFalse]
        exact .no
      next =>
        obtain ⟨n, hInteger, rfl⟩ := Option.map_eq_some_iff.1 h
        exact .integer (integer?_sound hInteger)
  · intro h
    cases h with
    | yes => rfl
    | no => rfl
    | integer hInteger =>
        have hRead := integer?_eq_some_iff.2 hInteger
        have hNone (word : Text) (h : Document.integer? word = none) : s ≠ word := by
          rintro rfl
          rw [h] at hRead
          cases hRead
        rw [if_neg (hNone _ (by decide)), if_neg (hNone _ (by decide)), hRead]
        rfl

/-- The characters of the values of settings. -/
theorem IsScalar.chars {value : Scalar} (h : IsScalar s value) :
    ∀ c ∈ s, c.isAlphanum = true ∨ c = '_' ∨ c = '+' ∨ c = '-' := by
  have hWord {word : Text} (hLetters : word.all Char.isAlphanum = true) : ∀ c ∈ word,
      c.isAlphanum = true ∨ c = '_' ∨ c = '+' ∨ c = '-' := by
    intro c hc
    exact .inl (List.all_eq_true.1 hLetters c hc)
  cases h with
  | yes => exact hWord (by decide)
  | no => exact hWord (by decide)
  | integer hInteger => exact hInteger.chars

/-- Nothing in a value of a setting ends it. -/
theorem IsScalar.not_ends {value : Scalar} (h : IsScalar s value) : ∀ c ∈ s, ¬ Ends c := by
  intro c hc hEnds
  have hKnown := h.chars c hc
  rcases hEnds with (rfl | rfl) | rfl | rfl | rfl <;> exact absurd hKnown (by decide)

end Toml

end DeskCalc
