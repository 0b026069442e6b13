import DeskCalc.Proofs.Expr.Refusal
import DeskCalc.Proofs.Session.FinalValue
import DeskCalc.Proofs.Session.KeyText

/-!
# Deleting takes keys back

A deletion sees the text of the entry and not the keys that it came from. Still it
takes back exactly what the last key put down, whatever stands in front of it. No
key puts down a space. No symbol that is deleted as a whole is the end of another
one, so a key that puts down a symbol is taken back as that symbol. Any other key
puts down one character, and the only one that ends a symbol is the opening
parenthesis: behind the name of a function it is deleted with the name.

Keys alone never put down such a name, so as many deletions as there were keys take
an entry back key by key.

## Main results

* `Calculator.dropSymbol_append_text_iff` — when the text of a key is deleted as it
  was inserted.
* `App.run_deletions` — deletions behind a run of keys.
* `delete_takes_keys_back` — one key and one deletion, and any number of both.
-/

namespace DeskCalc

/-! ## Texts -/

namespace Calculator

/-- What is deleted as one symbol: a function with its parenthesis, or the word
pi. -/
theorem mem_symbols_iff {symbol : Text} :
    symbol ∈ symbols ↔ (∃ f : Function, symbol = f.name ++ ['(']) ∨ symbol = ['p', 'i'] := by
  constructor
  · intro h
    have hAll : ∀ s ∈ symbols, s ∈ Function.all.map (fun f => f.name ++ ['(']) ∨ s = ['p', 'i'] := by
      decide
    rcases hAll symbol h with hName | hPi
    · obtain ⟨f, -, rfl⟩ := List.mem_map.1 hName
      exact .inl ⟨f, rfl⟩
    · exact .inr hPi
  · rintro (⟨f, rfl⟩ | rfl)
    · cases f <;> decide
    · decide

/-- No symbol is the end of another one. -/
theorem eq_of_symbol_suffix {s t : Text} (hs : s ∈ symbols) (ht : t ∈ symbols) (h : s <:+ t) :
    s = t := by
  have hAll : ∀ s ∈ symbols, ∀ t ∈ symbols, s <:+ t → s = t := by decide
  exact hAll s hs t ht h

/-- A symbol at the end is deleted as a whole. -/
theorem dropSymbol_append_symbol {symbol : Text} (h : symbol ∈ symbols) (u : Text) :
    dropSymbol (u ++ symbol) = u := by
  have hFits : ∃ found ∈ symbols, found.isSuffixOf (u ++ symbol) = true :=
    ⟨symbol, h, by simp⟩
  obtain ⟨found, hFound⟩ := Option.isSome_iff_exists.1 (List.find?_isSome.2 hFits)
  have hMem := List.mem_of_find?_eq_some hFound
  have hSuffix : found <:+ u ++ symbol := by simpa using List.find?_some hFound
  have hSame : found = symbol := by
    rcases List.suffix_or_suffix_of_suffix hSuffix (List.suffix_append u symbol) with hEnd | hEnd
    · exact eq_of_symbol_suffix hMem h hEnd
    · exact (eq_of_symbol_suffix h hMem hEnd).symm
  rw [dropSymbol, hFound, hSame]
  simp

/-- **A single character is deleted by itself**, unless it is the parenthesis of a
function. -/
theorem dropSymbol_append_char_iff {c : Char} (hc : c ≠ 'i') (u : Text) :
    dropSymbol (u ++ [c]) = u ↔ (c = '(' → ∀ f : Function, ¬ f.name <:+ u) := by
  constructor
  · rintro hSame rfl f ⟨front, rfl⟩
    have hSymbol : f.name ++ ['('] ∈ symbols := mem_symbols_iff.2 (.inl ⟨f, rfl⟩)
    rw [List.append_assoc, dropSymbol_append_symbol hSymbol] at hSame
    have hName : f.name = [] := by simpa using hSame
    cases f <;> cases hName
  · intro h
    have hNone : (symbols.find? fun symbol => symbol.isSuffixOf (u ++ [c])) = none := by
      rw [List.find?_eq_none]
      intro symbol hMem hFits
      obtain ⟨front, hSplit⟩ : symbol <:+ u ++ [c] := by simpa using hFits
      rcases mem_symbols_iff.1 hMem with ⟨f, rfl⟩ | rfl
      · rw [← List.append_assoc] at hSplit
        obtain ⟨hFront, hLast⟩ := List.append_inj' hSplit rfl
        cases hLast
        exact h rfl f ⟨front, hFront⟩
      · have hPi : front ++ ['p', 'i'] = (front ++ ['p']) ++ ['i'] := by simp
        rw [hPi] at hSplit
        obtain ⟨-, hLast⟩ := List.append_inj' hSplit rfl
        cases hLast
        exact hc rfl
    rw [dropSymbol, hNone]
    exact List.dropLast_concat

/-- The spaces in front of a text without spaces stay. -/
theorem trimSpaces_append {text : Text} (hNonempty : text ≠ []) (hVisible : ' ' ∉ text)
    (u : Text) : trimSpaces (u ++ text) = u ++ text := by
  obtain ⟨front, last, rfl⟩ := (List.eq_nil_or_concat' text).resolve_left hNonempty
  have hLast : ¬ (last == ' ') = true := by
    intro hSpace
    exact hVisible (by simp [beq_iff_eq.1 hSpace])
  rw [trimSpaces, ← List.append_assoc, List.reverse_concat,
    List.dropWhile_cons_of_neg (p := (· == ' ')) hLast, ← List.reverse_concat,
    List.reverse_reverse]

variable {key : Key}

theorem trimSpaces_append_text (h : key.Inserts) (u : Text) :
    trimSpaces (u ++ key.text) = u ++ key.text := by
  apply trimSpaces_append h.text_ne_nil
  intro hSpace
  have hBlank := h.not_isBlank ' ' hSpace
  contradiction

end Calculator

namespace Key

variable {key : Key} {keys : List Key}

/-- A key puts down a symbol or one character. -/
theorem Inserts.symbol_or_char (h : key.Inserts) :
    key.text ∈ Calculator.symbols ∨ ∃ c, key.text = [c] ∧ c ≠ 'i' := by
  have hAll : key.text ∈ Calculator.symbols ∨ key.text.length = 1 ∧ 'i' ∉ key.text := by
    refine of_keypads (fun k => ?_) h
    cases k <;> decide
  rcases hAll with hSymbol | ⟨hLength, hNot⟩
  · exact .inl hSymbol
  · obtain ⟨c, hText⟩ := List.length_eq_one_iff.1 hLength
    refine .inr ⟨c, hText, ?_⟩
    rintro rfl
    exact hNot (by simp [hText])

/-- Keys do not put down the name of a function without its parenthesis. -/
theorem not_name_suffix_joined (hKeys : ∀ key ∈ keys, key.Inserts) (f : Function) :
    ¬ f.name <:+ joined keys := by
  intro hSuffix
  have hName : ∃ c ∈ f.name.getLast?, c.isAlpha = true ∧ c ≠ 'e' := by
    cases f <;> exact ⟨_, rfl, by decide, by decide⟩
  obtain ⟨c, hLast, hLetter, hOther⟩ := hName
  have hJoined : c ∈ (joined keys).getLast? := by
    obtain ⟨front, hSplit⟩ := hSuffix
    rw [← hSplit, List.getLast?_append, hLast]
    rfl
  cases keys using List.reverseRecOn with
  | nil => cases hJoined
  | append_singleton before key =>
      have hKey := hKeys key (by simp)
      rw [joined_append, joined_cons, joined_nil, List.append_nil,
        List.getLast?_append_of_ne_nil _ hKey.text_ne_nil] at hJoined
      -- the only text that ends in a letter is the letter e
      have hText := (hKey.last c hJoined).1 hLetter
      rw [hText] at hJoined
      cases hJoined
      exact hOther rfl

end Key

/-- **When the text of a key is deleted as it was inserted.** -/
theorem Calculator.dropSymbol_append_text_iff {key : Key} (h : key.Inserts) (u : Text) :
    dropSymbol (u ++ key.text) = u ↔ (key.text = ['('] → ∀ f : Function, ¬ f.name <:+ u) := by
  rcases h.symbol_or_char with hSymbol | ⟨c, hText, hc⟩
  · refine iff_of_true (dropSymbol_append_symbol hSymbol u) ?_
    intro hParenthesis
    rw [hParenthesis] at hSymbol
    exact absurd hSymbol (by decide)
  · rw [hText, dropSymbol_append_char_iff hc]
    simp

/-! ## Keys and deletions -/

namespace App

variable {a : App} {key : Key} {keys : List Key}

/-- The state with another entry, as keys and deletions leave it. -/
def withEntry (a : App) (entry : Text) : App :=
  { a with calculator := { a.calculator with entry := entry }, wantsFocus := true }

@[simp] theorem entry_withEntry (entry : Text) : (a.withEntry entry).calculator.entry = entry :=
  rfl

theorem perform_key (hFinal : a.calculator.readout.isFinal = false) (hKey : key.Inserts) :
    a.perform key.command = a.withEntry (a.calculator.entry ++ key.text) := by
  rw [hKey.2, perform, Calculator.press_of_not_final hFinal]
  rfl

/-- A deletion behind the text of a key finds no space to take away first. -/
theorem perform_delete (hFinal : a.calculator.readout.isFinal = false) (hKey : key.Inserts)
    (entry : Text) :
    (a.withEntry (entry ++ key.text)).perform .delete =
      a.withEntry (Calculator.dropSymbol (entry ++ key.text)) := by
  have hNot : ¬ (a.withEntry (entry ++ key.text)).calculator.readout.isFinal = true := by
    show ¬ a.calculator.readout.isFinal = true
    simp [hFinal]
  rw [perform, Calculator.delete, if_neg hNot, entry_withEntry,
    Calculator.trimSpaces_append_text hKey]
  rfl

/-- **One key and one deletion.** -/
theorem perform_key_delete_iff (hFinal : a.calculator.readout.isFinal = false)
    (hKey : key.Inserts) :
    (a.perform key.command).perform .delete = { a with wantsFocus := true } ↔
      (key.text = ['('] → ∀ f : Function, ¬ f.name <:+ a.calculator.entry) := by
  have hSame : { a with wantsFocus := true } = a.withEntry a.calculator.entry := rfl
  rw [perform_key hFinal hKey, perform_delete hFinal hKey, hSame,
    ← Calculator.dropSymbol_append_text_iff hKey]
  constructor
  · intro h
    exact congrArg (fun b => b.calculator.entry) h
  · intro h
    rw [h]

theorem run_keys (hFinal : a.calculator.readout.isFinal = false)
    (hKeys : ∀ key ∈ keys, key.Inserts) (entry : Text) :
    (a.withEntry entry).run (keys.map Key.command) = a.withEntry (entry ++ Key.joined keys) := by
  induction keys generalizing entry with
  | nil =>
      rw [Key.joined_nil, List.append_nil]
      rfl
  | cons key rest ih =>
      obtain ⟨hKey, hRest⟩ := List.forall_mem_cons.1 hKeys
      have hFirst : (a.withEntry entry).perform key.command = a.withEntry (entry ++ key.text) :=
        perform_key hFinal hKey
      show ((a.withEntry entry).perform key.command).run (rest.map Key.command) = _
      rw [hFirst, ih hRest, Key.joined_cons, List.append_assoc]

/-- **Deletions behind a run of keys** take the keys back one by one. -/
theorem run_deletions (hFinal : a.calculator.readout.isFinal = false)
    (hKeys : ∀ key ∈ keys, key.Inserts) {m : ℕ} (hm : m ≤ keys.length) :
    (a.withEntry (Key.joined keys)).run (List.replicate m .delete) =
      a.withEntry (Key.joined (keys.take (keys.length - m))) := by
  induction keys using List.reverseRecOn generalizing m with
  | nil =>
      obtain rfl : m = 0 := Nat.le_zero.1 hm
      rfl
  | append_singleton before key ih =>
      cases m with
      | zero =>
          rw [Nat.sub_zero, List.take_length]
          rfl
      | succ m =>
          have hBefore : ∀ key ∈ before, key.Inserts := fun key hMem =>
            hKeys key (List.mem_append_left _ hMem)
          have hKey : key.Inserts := hKeys key (by simp)
          have hBack : Calculator.dropSymbol (Key.joined before ++ key.text) = Key.joined before :=
            (Calculator.dropSymbol_append_text_iff hKey _).2
              fun _ => Key.not_name_suffix_joined hBefore
          have hShorter : m ≤ before.length := by simpa using hm
          have hTake : (before ++ [key]).take ((before ++ [key]).length - (m + 1)) =
              before.take (before.length - m) := by
            rw [List.length_append, List.length_singleton, Nat.add_sub_add_right,
              List.take_append_of_le_length (Nat.sub_le _ _)]
          rw [hTake, ← ih hBefore hShorter, Key.joined_append, Key.joined_cons, Key.joined_nil,
            List.append_nil]
          show ((a.withEntry (Key.joined before ++ key.text)).perform .delete).run _ = _
          rw [perform_delete hFinal hKey, hBack]

/-- Beside a blank entry no value is final, in every state within reach. -/
theorem Reachable.not_final_of_isBlank (h : a.Reachable) (hBlank : a.calculator.isBlank = true) :
    a.calculator.readout.isFinal = false := by
  have hEmpty : Display.evaluate a.calculator.entry.trim a.calculator.places =
      .error .emptyInput := by
    rw [Display.evaluate_eq_error_iff, evaluate_trim, evaluate_eq_emptyInput_iff,
      ← Calculator.isBlank_iff]
    exact hBlank
  cases hReadout : a.calculator.readout with
  | blank => rfl
  | failure => rfl
  | value shown final =>
      cases final with
      | false => rfl
      | true =>
          rw [h.evaluate_of_final hReadout] at hEmpty
          cases hEmpty

end App

/-- **Deleting takes keys back.** Behind any entry, unless a final value stands
beside it, a key and a deletion leave the state as it was, the keyboard apart; only
an opening parenthesis behind the name of a function is deleted with the name. From
an empty entry on, as many deletions as wished take back as many of the last keys,
and what is left is the text of the keys before them. -/
theorem delete_takes_keys_back (a : App) :
    (a.calculator.readout.isFinal = false → ∀ key : Key, key.Inserts →
      ((a.perform key.command).perform .delete = { a with wantsFocus := true } ↔
        (key.text = ['('] → ∀ f : Function, ¬ f.name <:+ a.calculator.entry))) ∧
    (a.calculator.entry = [] → a.calculator.readout.isFinal = false ∨ a.Reachable →
      ∀ keys : List Key, (∀ key ∈ keys, key.Inserts) → ∀ m ≤ keys.length,
        a.run (keys.map Key.command ++ List.replicate m .delete) =
          { a with
            calculator := { a.calculator with
              entry := Key.joined (keys.take (keys.length - m)) }
            wantsFocus := a.wantsFocus || !keys.isEmpty }) := by
  constructor
  · intro hFinal key hKey
    exact App.perform_key_delete_iff hFinal hKey
  · intro hEntry hState keys hKeys m hm
    have hBlank : a.calculator.isBlank = true := Calculator.isBlank_iff.2 (by simp [hEntry])
    have hFinal : a.calculator.readout.isFinal = false :=
      hState.elim id fun hReach => hReach.not_final_of_isBlank hBlank
    cases keys with
    | nil =>
        obtain rfl : m = 0 := Nat.le_zero.1 hm
        show a = { a with
          calculator := { a.calculator with entry := [] }, wantsFocus := a.wantsFocus || false }
        rw [← hEntry, Bool.or_false]
    | cons key rest =>
        obtain ⟨hKey, hRest⟩ := List.forall_mem_cons.1 hKeys
        have hTyped : a.run ((key :: rest).map Key.command) =
            a.withEntry (Key.joined (key :: rest)) := by
          show (a.perform key.command).run (rest.map Key.command) = _
          rw [App.perform_key hFinal hKey, App.run_keys hFinal hRest, hEntry, Key.joined_cons]
          rfl
        rw [App.run_append, hTyped, App.run_deletions hFinal hKeys hm]
        simp [App.withEntry]

/-- A space keeps the parenthesis apart from the name, and stays when it is deleted;
and of three keys two are taken back, the root with its parenthesis. -/
theorem delete_takes_keys_back_root :
    let a := App.start .default false
    let b := a.perform (.edit "sin ".toList)
    let keys : List Key := [.plain '2', .plain '+', .call "√" .sqrt]
    (b.perform (Key.plain '(').command).perform .delete = { b with wantsFocus := true } ∧
      (a.run (keys.map Key.command ++ List.replicate 2 .delete)).calculator.entry =
        "2".toList := by
  intro a b keys
  have hParenthesis : (Key.plain '(').Inserts := by decide
  have hKeys : ∀ key ∈ keys, key.Inserts := by decide
  have hApart : ∀ f : Function, ¬ f.name <:+ b.calculator.entry := by
    intro f
    cases f <;> decide
  have hKey := (delete_takes_keys_back b).1 rfl _ hParenthesis
  have hRun := (delete_takes_keys_back a).2 rfl (.inl rfl) keys hKeys 2 (by decide)
  refine ⟨hKey.2 fun _ => hApart, ?_⟩
  rw [hRun]
  decide

-- Behind a name the parenthesis is deleted with it.
example :
    ((App.start .default false).run
      [.edit "2+sin".toList, .press ['('], .delete]).calculator.entry = "2+".toList := by
  decide

end DeskCalc
