import DeskCalc.Proofs.Expr.Compound

/-!
# Which logs read back

A log puts one blank between the words of its tokens. A blank parts a text wherever
it stands, so a log is read word by word: two stars do not meet, and no two words
become one. Every word is read as its own token, but for three kinds: a negation has
no word that can be read, a number without a finite value has none either, and the
sign of a negative number is read as a token of its own.

## Main results

* `Token.tokenize_writeAll` — a log is read word by word.
* `Token.tokenize_writeAll_iff` — which lists of tokens read back.
-/

namespace DeskCalc

/-- The numbers that a text holds have no sign. -/
theorem Scan.exists_ofPlace {s : Text} {tokens : List Token} (h : Scan s tokens) {x : Binary64}
    (hMem : .number x ∈ tokens) : ∃ i, x = .ofPlace false i := by
  induction h with
  | nil => cases hMem
  | blank hBlank hRest ih => exact ih hMem
  | piece hLongest hMeans hRest ih =>
      rcases List.mem_cons.1 hMem with rfl | hMem
      · cases hMeans with
        | numeral => exact ⟨_, rfl⟩
        | word hLetters hWord =>
            have hAll : ∀ entry ∈ words, ∀ x, entry.2 ≠ .number x := by simp [words]
            exact absurd rfl (hAll _ hWord x)
        | symbol hSymbol =>
            have hAll : ∀ entry ∈ symbols, ∀ x, entry.2 ≠ .number x := by simp [symbols]
            exact absurd rfl (hAll _ hSymbol x)
      · exact ih hMem

namespace Token

/-- The word of the token names the token. -/
def Legible : Token → Prop
  | number x => ∃ m, x = .finite false m
  | negate => False
  | _ => True

/-! ## One word -/

theorem Legible.tokenize_write {t : Token} (h : t.Legible) : tokenize t.write = .ok [t] := by
  cases t with
  | number x =>
      obtain ⟨m, rfl⟩ := h
      exact m.tokenize_shortest
  | constant c => exact c.means_symbol.tokenize_eq
  | function f => exact f.means_name.tokenize_eq
  | binary op =>
      have hSign : [op.sign] ∈ op.writings := by cases op <;> decide
      exact (op.means_writing hSign).tokenize_eq
  | negate => exact h.elim
  | opening =>
      have hMeans : Piece.Means ['('] .opening := .symbol (by decide)
      exact hMeans.tokenize_eq
  | closing =>
      have hMeans : Piece.Means [')'] .closing := .symbol (by decide)
      exact hMeans.tokenize_eq

/-- A number without a finite value has no word that can be read. -/
theorem exists_finite_of_tokenize_text {x : Binary64} {tokens : List Token}
    (h : tokenize x.text = .ok tokens) : ∃ negative m, x = .finite negative m := by
  cases x with
  | finite negative m => exact ⟨negative, m, rfl⟩
  | infinite negative =>
      have hError : ∃ error, tokenize (Binary64.infinite negative).text = .error error := by
        cases negative <;> exact ⟨.unknownWord "inf".toList, by decide +kernel⟩
      obtain ⟨error, hError⟩ := hError
      rw [hError] at h
      cases h
  | nan =>
      have hError : tokenize Binary64.nan.text = .error (.unknownWord "nan".toList) := by
        decide +kernel
      rw [hError] at h
      cases h

/-! ## The words of a log -/

theorem writeAll_cons_cons (t u : Token) (rest : List Token) :
    writeAll (t :: u :: rest) = t.write ++ ' ' :: writeAll (u :: rest) := by
  rw [writeAll, List.map_cons, List.map_cons, List.intercalate_cons_cons, List.append_assoc]
  rfl

/-- **A log is read word by word**; its first error is that of the first word that
has one. -/
theorem tokenize_writeAll (tokens : List Token) :
    tokenize (writeAll tokens) = (tokens.mapM fun t => tokenize t.write).map List.flatten := by
  induction tokens with
  | nil => exact tokenize_nil
  | cons t rest ih =>
      rw [List.mapM_cons]
      cases rest with
      | nil =>
          rw [writeAll, List.map_cons, List.map_nil, List.intercalate_singleton]
          cases tokenize t.write with
          | error error => rfl
          | ok first => exact congrArg Except.ok (List.append_nil first).symm
      | cons u rest =>
          rw [writeAll_cons_cons, tokenize_append_blank (by decide), ih]
          cases tokenize t.write with
          | error error => rfl
          | ok first =>
              cases (u :: rest).mapM fun t => tokenize t.write with
              | error error => rfl
              | ok others => rfl

/-- Every word of a log that is read can be read by itself. -/
theorem exists_tokenize_write {t : Token} {tokens read : List Token}
    (h : tokenize (writeAll tokens) = .ok read) (hMem : t ∈ tokens) :
    ∃ own, tokenize t.write = .ok own := by
  rw [tokenize_writeAll] at h
  cases hWords : tokens.mapM fun t => tokenize t.write with
  | error error =>
      rw [hWords] at h
      cases h
  | ok words => exact exists_ok_of_mapM (f := fun t => tokenize t.write) hWords hMem

/-- The words of legible tokens are read as these tokens. -/
theorem mapM_tokenize_write {tokens : List Token} (h : ∀ t ∈ tokens, t.Legible) :
    (tokens.mapM fun t => tokenize t.write) = .ok (tokens.map fun t => [t]) := by
  induction tokens with
  | nil => rfl
  | cons t rest ih =>
      obtain ⟨hFirst, hRest⟩ := List.forall_mem_cons.1 h
      rw [List.mapM_cons, hFirst.tokenize_write, ih hRest]
      rfl

/-- **Which lists of tokens read back from their log**: those without a negation
whose numbers are finite and have no sign. -/
theorem tokenize_writeAll_iff (tokens : List Token) :
    tokenize (writeAll tokens) = .ok tokens ↔ ∀ t ∈ tokens, t.Legible := by
  constructor
  · intro h t hMem
    cases t with
    | number x =>
        obtain ⟨own, hOwn⟩ := exists_tokenize_write h hMem
        obtain ⟨negative, m, rfl⟩ := exists_finite_of_tokenize_text hOwn
        obtain ⟨i, hPlace⟩ := (scan_of_tokenize h).exists_ofPlace hMem
        rw [Binary64.ofPlace] at hPlace
        split at hPlace
        · exact ⟨_, hPlace⟩
        · cases hPlace
    | negate => exact negate_not_mem_tokenize h hMem
    | constant => trivial
    | function => trivial
    | binary => trivial
    | opening => trivial
    | closing => trivial
  · intro h
    rw [tokenize_writeAll, mapM_tokenize_write h]
    exact congrArg Except.ok (List.flatMap_singleton' tokens)

-- The stars make no power, and the letters no word.
example :
    writeAll [.binary .mul, .binary .mul, .constant .e, .function .ln] = "* * e ln".toList ∧
      tokenize "* * e ln".toList =
        .ok [.binary .mul, .binary .mul, .constant .e, .function .ln] := by
  decide +kernel

end Token

end DeskCalc
