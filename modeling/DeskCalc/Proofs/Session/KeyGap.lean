import DeskCalc.Proofs.Expr.Compound
import DeskCalc.Proofs.Session.KeyText

/-!
# No gaps between keys

Keys put their texts next to each other without a gap. Most neighbours keep apart
by themselves; digits and points run together in either case, as they should. Only
the letter e in front of another letter makes one word of two keys. No such word
means anything, and with a gap the two keys are an operand behind an operand, so
the text is an error in either case.

## Main results

* `Key.ofText_joined` — without such a pair the gaps make no difference.
* `Key.tokenize_joined_of_merges`, `Key.evaluate_spaced_of_merges` — with one, both
  texts are errors.
* `keys_need_no_gaps` — the value is the same with gaps and without.
-/

namespace DeskCalc

/-! ## Texts and tokens -/

/-- A longer word that starts with the letter e means nothing. -/
theorem tokenize_e_letter {d : Char} (hLetter : d.isAlpha = true) (rest : Text) :
    ∃ error, tokenize ('e' :: d :: rest) = .error error := by
  have hLexemes : Lexeme.ofText ('e' :: d :: rest) =
      .word ('e' :: d :: rest.takeWhile Char.isAlpha) ::
        Lexeme.ofText (rest.dropWhile Char.isAlpha) := by
    have hVisible : ¬ Text.isBlank 'e' = true := by decide
    rw [Lexeme.ofText, if_neg hVisible, if_pos (by decide), List.takeWhile_cons_of_pos hLetter,
      List.dropWhile_cons_of_pos hLetter]
  have hAlone : ∀ entry ∈ words, entry.1.head? = some 'e' → entry.1.length = 1 := by decide
  have hNone : Lexeme.tokenOfWord?
      (('e' :: d :: rest.takeWhile Char.isAlpha).map Char.toLower) = none := by
    rw [Option.eq_none_iff_forall_not_mem]
    intro t ht
    have hLength := hAlone _ (tokenOfWord?_eq_some_iff.1 ht) rfl
    simp at hLength
  have hToken : Lexeme.token (.word ('e' :: d :: rest.takeWhile Char.isAlpha)) =
      .error (.unknownWord (('e' :: d :: rest.takeWhile Char.isAlpha).map Char.toLower)) := by
    rw [Lexeme.token, hNone]
  exact ⟨_, tokenize_of_error hLexemes hToken⟩

/-- The name of a function with a parenthesis behind it. -/
theorem tokenize_call (f : Function) :
    tokenize (f.name ++ ['(']) = .ok [.function f, .opening] := by
  have hOpening : Lexeme.Symbol '(' .opening := by decide
  rw [f.means_name.tokenize_append (hOpening.apart _ []), hOpening.tokenize_cons, tokenize_nil]
  rfl

/-! ## Neighbouring keys -/

namespace Key

/-- What parts two neighbours, unless they belong to one numeral. -/
def gap (a b : Key) : Text := if a.isNumeric && b.isNumeric then [] else [' ']

/-- The texts of keys with the gaps between them. -/
def spaced : List Key → Text
  | [] => []
  | [key] => key.text
  | a :: b :: rest => a.text ++ gap a b ++ spaced (b :: rest)

/-- Without a gap the texts of the two keys make one word. -/
def Merges (a b : Key) : Prop := a.text = ['e'] ∧ b.StartsWord

variable {a b : Key} {keys : List Key}

/-- **Neighbours keep apart** unless they merge or belong to one numeral. -/
theorem Inserts.apart (ha : a.Inserts) (hb : b.Inserts) (hMerges : ¬ Merges a b)
    (hNumeric : (a.isNumeric && b.isNumeric) = false) : Lexeme.Apart a.text b.text := by
  intro c hc d hd
  obtain ⟨hLetter, hPart, hStar⟩ := ha.last c hc
  obtain ⟨hWord, hOther⟩ := hb.first d hd
  by_contra hFuses
  simp only [Lexeme.fuses, Bool.not_eq_false, Bool.or_eq_true, Bool.and_eq_true,
    beq_iff_eq] at hFuses
  rcases hFuses with (⟨hLeft, hRight⟩ | ⟨hLeft, hRight⟩) | ⟨rfl, -⟩
  · exact hMerges ⟨hLetter hLeft, hWord hRight⟩
  · simp [hPart hLeft, hOther hRight] at hNumeric
  · exact hStar rfl

/-- **The gaps make no difference** where no neighbours merge. -/
theorem ofText_joined (hKeys : ∀ key ∈ keys, key.Inserts)
    (hApart : keys.IsChain fun a b => ¬ Merges a b) (front : Text) :
    Lexeme.ofText (front ++ joined keys) = Lexeme.ofText (front ++ spaced keys) := by
  induction keys generalizing front with
  | nil => rfl
  | cons a rest ih =>
      cases rest with
      | nil => rw [joined_cons, joined_nil, List.append_nil, spaced]
      | cons b rest =>
          obtain ⟨hFirst, hBehind⟩ := List.isChain_cons_cons.1 hApart
          obtain ⟨ha, hOthers⟩ := List.forall_mem_cons.1 hKeys
          have hb := hOthers b List.mem_cons_self
          cases hNumeric : a.isNumeric && b.isNumeric with
          | true =>
              have hGap : gap a b = [] := if_pos hNumeric
              have hRest := ih hOthers hBehind (front ++ a.text)
              rw [joined_cons, spaced, hGap, List.append_nil, ← List.append_assoc,
                ← List.append_assoc, hRest]
          | false =>
              have hGap : gap a b = [' '] := if_neg (by simp [hNumeric])
              have hRest : Lexeme.ofText (joined (b :: rest)) = Lexeme.ofText (spaced (b :: rest)) :=
                ih hOthers hBehind []
              have hSeam : Lexeme.Apart (front ++ a.text) (joined (b :: rest)) := by
                rw [joined_cons]
                exact (ha.apart hb hFirst hNumeric).extend ha.text_ne_nil hb.text_ne_nil _ _
              calc Lexeme.ofText (front ++ joined (a :: b :: rest))
                  = Lexeme.ofText (front ++ a.text) ++ Lexeme.ofText (joined (b :: rest)) := by
                    rw [joined_cons a, ← List.append_assoc, Lexeme.ofText_append hSeam]
                _ = Lexeme.ofText (front ++ a.text) ++ Lexeme.ofText (spaced (b :: rest)) := by
                    rw [hRest]
                _ = Lexeme.ofText (front ++ spaced (a :: b :: rest)) := by
                    rw [← Lexeme.ofText_append_blank (by decide : Text.isBlank ' ' = true), spaced,
                      hGap]
                    simp

/-! ## Keys that merge -/

theorem isNumeric_of_text_e (h : a.text = ['e']) : a.isNumeric = false := by
  rw [isNumeric, h]
  decide

namespace StartsWord

theorem exists_head (h : b.StartsWord) : ∃ d tail, b.text = d :: tail ∧ d.isAlpha = true := by
  rcases h with hText | hText
  · exact ⟨'e', [], hText, by decide⟩
  · obtain ⟨f, -, hName⟩ := List.mem_map.1 hText
    rw [← hName]
    cases f <;> exact ⟨_, _, rfl, by decide⟩

theorem isNumeric_eq (h : b.StartsWord) : b.isNumeric = false := by
  rcases h with hText | hText
  · exact isNumeric_of_text_e hText
  · obtain ⟨f, -, hName⟩ := List.mem_map.1 hText
    rw [isNumeric, ← hName]
    cases f <;> rfl

end StartsWord

/-- The letter e in front of a letter spoils a text, whatever keys stand in front
of it. -/
theorem exists_tokenize_error (hKeys : ∀ key ∈ keys, key.Inserts) {d : Char}
    (hLetter : d.isAlpha = true) (rest : Text) :
    ∃ error, tokenize (joined keys ++ 'e' :: d :: rest) = .error error := by
  induction keys using List.reverseRecOn generalizing d rest with
  | nil => exact tokenize_e_letter hLetter rest
  | append_singleton before a ih =>
      have hBefore : ∀ key ∈ before, key.Inserts := fun key hMem =>
        hKeys key (List.mem_append_left _ hMem)
      have ha : a.Inserts := hKeys a (by simp)
      rw [joined_append, joined_cons, joined_nil, List.append_nil]
      by_cases hText : a.text = ['e']
      · rw [hText, List.append_assoc]
        exact ih hBefore (by decide) (d :: rest)
      · -- any other key keeps apart from the letter
        have hLast : Inserts (.plain 'e') := by decide
        have hApart : Lexeme.Apart a.text ['e'] := by
          apply ha.apart hLast (fun hMerges => hText hMerges.1)
          rw [isNumeric_of_text_e (a := .plain 'e') rfl, Bool.and_false]
        have hSeam := hApart.extend ha.text_ne_nil (by simp) (joined before) (d :: rest)
        obtain ⟨error, hError⟩ := tokenize_e_letter hLetter rest
        rw [← List.singleton_append, tokenize_append hSeam, List.singleton_append, hError]
        cases tokenize (joined before ++ a.text) with
        | ok tokens => exact ⟨error, rfl⟩
        | error other => exact ⟨other, rfl⟩

/-- In front of a key that is no part of a numeral there is a gap. -/
theorem spaced_append (first : Key) (before : List Key) (hNumeric : a.isNumeric = false)
    (rest : List Key) :
    spaced (first :: before ++ a :: rest) =
      spaced (first :: before) ++ ' ' :: spaced (a :: rest) := by
  induction before generalizing first with
  | nil => simp [spaced, gap, hNumeric]
  | cons second before ih =>
      have hRest := ih second
      rw [List.cons_append] at hRest
      rw [List.cons_append, List.cons_append, spaced, hRest, spaced, List.append_assoc _ _ (_ :: _)]

theorem tokenize_spaced_append (before : List Key) (hNumeric : a.isNumeric = false)
    (rest : List Key) :
    tokenize (spaced (before ++ a :: rest)) = do
      let first ← tokenize (spaced before)
      let second ← tokenize (spaced (a :: rest))
      return first ++ second := by
  cases before with
  | nil =>
      rw [spaced, tokenize_nil]
      exact (bind_pure _).symm
  | cons first before =>
      rw [spaced_append first before hNumeric, tokenize_append_blank (by decide)]

theorem StartsWord.tokenize_text (h : b.StartsWord) :
    ∃ t more, t.StartsOperand ∧ tokenize b.text = .ok (t :: more) := by
  rcases h with hText | hText
  · exact ⟨.constant .e, [], trivial, hText ▸ Constant.e.means_symbol.tokenize_eq⟩
  · obtain ⟨f, -, hName⟩ := List.mem_map.1 hText
    exact ⟨.function f, [.opening], trivial, hName ▸ tokenize_call f⟩

/-- A key whose text starts with a letter starts an operand. -/
theorem StartsWord.exists_operand (h : b.StartsWord) {rest : List Key} {tokens : List Token}
    (hTokens : tokenize (spaced (b :: rest)) = .ok tokens) :
    ∃ t more, t.StartsOperand ∧ tokens = t :: more := by
  obtain ⟨t, own, hOperand, hText⟩ := h.tokenize_text
  cases rest with
  | nil =>
      rw [spaced, hText] at hTokens
      cases hTokens
      exact ⟨t, own, hOperand, rfl⟩
  | cons c rest =>
      have hGap : gap b c = [' '] := by simp [gap, h.isNumeric_eq]
      rw [spaced, hGap, List.append_assoc, List.singleton_append,
        tokenize_append_blank (by decide), hText] at hTokens
      obtain ⟨_, ⟨⟩, hBehind⟩ := exists_of_bind_eq_ok hTokens
      obtain ⟨more, -, ⟨⟩⟩ := exists_of_bind_eq_ok hBehind
      exact ⟨t, own ++ more, hOperand, rfl⟩

/-- **Without gaps** keys that merge are a word without a meaning. -/
theorem tokenize_joined_of_merges {before after : List Key}
    (hKeys : ∀ key ∈ before ++ a :: b :: after, key.Inserts)
    (h : Merges a b) : ∃ error, tokenize (joined (before ++ a :: b :: after)) = .error error := by
  obtain ⟨hText, hWord⟩ := h
  obtain ⟨d, tail, hHead, hLetter⟩ := hWord.exists_head
  have hSplit : joined (before ++ a :: b :: after) =
      joined before ++ 'e' :: d :: (tail ++ joined after) := by
    simp [hText, hHead]
  rw [hSplit]
  exact exists_tokenize_error (fun key hMem => hKeys key (List.mem_append_left _ hMem)) hLetter _

/-- **With gaps** they are an operand behind an operand. -/
theorem evaluate_spaced_of_merges (before after : List Key) (h : Merges a b) :
    ∃ error, evaluate (spaced (before ++ a :: b :: after)) = .error error := by
  obtain ⟨hText, hWord⟩ := h
  have hFirst := tokenize_spaced_append before (isNumeric_of_text_e hText) (b :: after)
  have hSecond := tokenize_spaced_append [a] hWord.isNumeric_eq after
  have hConstant : tokenize ['e'] = .ok [.constant .e] := Constant.e.means_symbol.tokenize_eq
  rw [spaced, hText, hConstant] at hSecond
  cases hTokens : tokenize (spaced (before ++ a :: b :: after)) with
  | error error => exact ⟨error, evaluate_of_tokenize_error hTokens⟩
  | ok tokens =>
      obtain ⟨front, -, hBehind⟩ := exists_of_bind_eq_ok (hFirst.symm.trans hTokens)
      obtain ⟨pair, hPair, ⟨⟩⟩ := exists_of_bind_eq_ok hBehind
      obtain ⟨_, ⟨⟩, hBehind⟩ := exists_of_bind_eq_ok (hSecond.symm.trans hPair)
      obtain ⟨last, hLast, ⟨⟩⟩ := exists_of_bind_eq_ok hBehind
      obtain ⟨t, more, hOperand, rfl⟩ := hWord.exists_operand hLast
      obtain ⟨error, hError⟩ := exists_toRpn_error front .e hOperand more
      exact ⟨error, evaluate_of_toRpn_error hTokens hError⟩

/-- **Gaps change nothing, or nothing is right in either case.** -/
theorem tokenize_joined_cases (hKeys : ∀ key ∈ keys, key.Inserts) :
    tokenize (joined keys) = tokenize (spaced keys) ∨
      (∃ error, tokenize (joined keys) = .error error) ∧
        ∃ error, evaluate (spaced keys) = .error error := by
  by_cases hApart : keys.IsChain fun a b => ¬ Merges a b
  · left
    have hLexemes := ofText_joined hKeys hApart []
    rw [List.nil_append, List.nil_append] at hLexemes
    rw [tokenize, tokenize, hLexemes]
  · right
    rw [List.isChain_iff_forall_rel_of_append_cons_cons] at hApart
    push Not at hApart
    obtain ⟨a, b, before, after, rfl, hMerges⟩ := hApart
    exact ⟨tokenize_joined_of_merges hKeys hMerges, evaluate_spaced_of_merges before after hMerges⟩

/-- Gaps add nothing but blanks. -/
theorem mem_spaced {c : Char} (h : c ∈ spaced keys) : c = ' ' ∨ ∃ key ∈ keys, c ∈ key.text := by
  fun_induction spaced keys with
  | case1 => cases h
  | case2 key => exact .inr ⟨key, by simp, h⟩
  | case3 a b rest ih =>
      rcases List.mem_append.1 h with hFirst | hRest
      · rcases List.mem_append.1 hFirst with hText | hGap
        · exact .inr ⟨a, by simp, hText⟩
        · unfold gap at hGap
          split at hGap
          · cases hGap
          · exact .inl (List.mem_singleton.1 hGap)
      · rcases ih hRest with hBlank | ⟨key, hKey, hMem⟩
        · exact .inl hBlank
        · exact .inr ⟨key, List.mem_cons_of_mem a hKey, hMem⟩

end Key

/-- **Keys need no gaps.** Any keys that insert a text, from both keypads and in any
order, put down a text with the same value as the one with a blank between any two
neighbours that are not both a digit or a point. If the text has tokens at all, they
are those of the text with the blanks; and whatever error either has, no character
is the cause of it. -/
theorem keys_need_no_gaps (keys : List Key) (hKeys : ∀ key ∈ keys, key.Inserts) :
    (∀ x, evaluate (Key.joined keys) = .ok x ↔ evaluate (Key.spaced keys) = .ok x) ∧
    (∀ tokens, tokenize (Key.joined keys) = .ok tokens →
      tokenize (Key.spaced keys) = .ok tokens) ∧
    ∀ c, evaluate (Key.joined keys) ≠ .error (.invalidCharacter c) ∧
      evaluate (Key.spaced keys) ≠ .error (.invalidCharacter c) := by
  have hKnown : ∀ key ∈ keys, ∀ c ∈ key.text, Text.isBlank c = true ∨ c.isAlpha = true ∨
      Numeral.isNumeric c = true ∨ c ∈ symbols.map Prod.fst :=
    fun key hMem c hc => .inr ((hKeys key hMem).known c hc)
  have hCharacters : ∀ c, evaluate (Key.joined keys) ≠ .error (.invalidCharacter c) ∧
      evaluate (Key.spaced keys) ≠ .error (.invalidCharacter c) := by
    intro c
    constructor
    · apply evaluate_ne_invalidCharacter
      intro d hd
      obtain ⟨key, hKey, hMem⟩ := List.mem_flatMap.1 hd
      exact hKnown key hKey d hMem
    · apply evaluate_ne_invalidCharacter
      intro d hd
      rcases Key.mem_spaced hd with rfl | ⟨key, hKey, hMem⟩
      · exact .inl (by decide)
      · exact hKnown key hKey d hMem
  rcases Key.tokenize_joined_cases hKeys with hSame | ⟨⟨first, hJoined⟩, second, hSpaced⟩
  · refine ⟨?_, ?_, hCharacters⟩
    · intro x
      rw [evaluate_eq, evaluate_eq, hSame]
    · intro tokens h
      rwa [← hSame]
  · refine ⟨?_, ?_, hCharacters⟩
    · intro x
      rw [evaluate_of_tokenize_error hJoined, hSpaced]
      simp
    · intro tokens h
      rw [hJoined] at h
      cases h

/-- A decimal keeps together between its gaps, and the product is ten either way. -/
theorem keys_need_no_gaps_product :
    let keys : List Key := [.plain '2', .plain '.', .plain '5', .plain '×', .plain '(', .plain '4',
      .plain ')']
    let x : Binary64 := Decimal.toBinary64 ⟨10, 0⟩
    (∀ key ∈ keys, key.Inserts) ∧ Key.joined keys = "2.5×(4)".toList ∧
      Key.spaced keys = "2.5 × ( 4 )".toList ∧
      evaluate "2.5×(4)".toList = .ok x ∧ evaluate "2.5 × ( 4 )".toList = .ok x := by
  intro keys x
  have hKeys : ∀ key ∈ keys, key.Inserts := by decide
  have hJoined : Key.joined keys = "2.5×(4)".toList := by decide
  have hSpaced : Key.spaced keys = "2.5 × ( 4 )".toList := by decide
  have hTen : evaluate "2.5×(4)".toList = .ok x := by decide +kernel
  obtain ⟨hValue, -, -⟩ := keys_need_no_gaps keys hKeys
  rw [hJoined, hSpaced] at hValue
  exact ⟨hKeys, hJoined, hSpaced, hTen, (hValue x).1 hTen⟩

-- The errors differ where two keys merge.
example :
    evaluate (Key.joined [.plain 'e', .call "ln" .ln]) = .error (.unknownWord "eln".toList) ∧
    evaluate (Key.spaced [.plain 'e', .call "ln" .ln]) =
      .error (.grammar .operandBeforeFunction) := by
  decide +kernel

end DeskCalc
