import DeskCalc.Proofs.Expr.Vocabulary
import DeskCalc.Session.Key

/-!
# What keys insert

A key inserts a digit or a point, an operator, a parenthesis, π, the letter e, or
the name of a function with a parenthesis behind it. All that is used of these
texts is said once below, for every key of either keypad: their characters are
those of the vocabulary, a text that ends in a letter is the letter e, and only
that letter and the names of functions start with one.
-/

namespace DeskCalc

theorem Keypad.exists_iff {P : Keypad → Prop} : (∃ k, P k) ↔ P .basic ∨ P .scientific := by
  constructor
  · rintro ⟨k, h⟩
    cases k with
    | basic => exact .inl h
    | scientific => exact .inr h
  · rintro (h | h)
    · exact ⟨_, h⟩
    · exact ⟨_, h⟩

namespace Key

/-- The text that a key inserts. -/
def text : Key → Text
  | .insert _ text => text
  | _ => []

/-- The key is part of a numeral. -/
def isNumeric (key : Key) : Bool :=
  match key.text with
  | [c] => Numeral.isNumeric c
  | _ => false

/-- A key of one of the keypads that inserts its text. -/
def Inserts (key : Key) : Prop :=
  (∃ k : Keypad, key ∈ k.keys) ∧ key.command = .press key.text

instance (key : Key) : Decidable key.Inserts :=
  decidable_of_iff' _ (and_congr_left' Keypad.exists_iff)

/-- The texts of keys, one behind the other. -/
def joined (keys : List Key) : Text := keys.flatMap text

/-- The key's text starts with a letter: it is the constant e or a function. -/
def StartsWord (key : Key) : Prop :=
  key.text = ['e'] ∨ key.text ∈ Function.all.map fun f => f.name ++ ['(']

instance (key : Key) : Decidable key.StartsWord := inferInstanceAs (Decidable (_ ∨ _))

namespace Inserts

variable {key : Key}

/-- The keys of the keypads are few, so what is decidable of all of them need not
be taken apart. -/
@[elab_as_elim]
theorem of_keypads {P : Key → Prop}
    (hAll : ∀ k : Keypad, ∀ key ∈ k.keys, key.command = .press key.text → P key)
    (h : key.Inserts) : P key := by
  obtain ⟨⟨k, hKey⟩, hCommand⟩ := h
  exact hAll k key hKey hCommand

theorem text_ne_nil (h : key.Inserts) : key.text ≠ [] := by
  refine of_keypads (fun k => ?_) h
  cases k <;> decide

/-- Every character of the text is of the vocabulary. -/
theorem known (h : key.Inserts) : ∀ c ∈ key.text,
    c.isAlpha = true ∨ Numeral.isNumeric c = true ∨ c ∈ symbols.map Prod.fst := by
  have hAll : (key.text.all fun c => decide (c.isAlpha = true ∨ Numeral.isNumeric c = true ∨
      c ∈ symbols.map Prod.fst)) = true := by
    refine of_keypads (fun k => ?_) h
    cases k <;> decide
  simpa using hAll

theorem not_isBlank (h : key.Inserts) : ∀ c ∈ key.text, Text.isBlank c = false := by
  have hAll : (key.text.all fun c => !Text.isBlank c) = true := by
    refine of_keypads (fun k => ?_) h
    cases k <;> decide
  simpa using hAll

/-- What the text ends in tells what may follow without a gap. -/
theorem last (h : key.Inserts) : ∀ c ∈ key.text.getLast?,
    (c.isAlpha = true → key.text = ['e']) ∧
      (Numeral.isNumeric c = true → key.isNumeric = true) ∧ c ≠ '*' := by
  have hAll : (key.text.getLast?.all fun c => decide ((c.isAlpha = true → key.text = ['e']) ∧
      (Numeral.isNumeric c = true → key.isNumeric = true) ∧ c ≠ '*')) = true := by
    refine of_keypads (fun k => ?_) h
    cases k <;> decide
  intro c hc
  exact of_decide_eq_true ((Option.all_eq_true _ _).1 hAll c hc)

/-- What the text starts with tells what may stand in front without a gap. -/
theorem first (h : key.Inserts) : ∀ c ∈ key.text.head?,
    (c.isAlpha = true → key.StartsWord) ∧
      (Numeral.isNumeric c = true → key.isNumeric = true) := by
  have hAll : (key.text.head?.all fun c => decide ((c.isAlpha = true → key.StartsWord) ∧
      (Numeral.isNumeric c = true → key.isNumeric = true))) = true := by
    refine of_keypads (fun k => ?_) h
    cases k <;> decide
  intro c hc
  exact of_decide_eq_true ((Option.all_eq_true _ _).1 hAll c hc)

end Inserts

@[simp] theorem joined_nil : joined [] = [] := rfl

@[simp] theorem joined_cons (key : Key) (rest : List Key) :
    joined (key :: rest) = key.text ++ joined rest :=
  List.flatMap_cons

@[simp] theorem joined_append (first second : List Key) :
    joined (first ++ second) = joined first ++ joined second :=
  List.flatMap_append

/-- The texts of keys have something to be seen in them. -/
theorem exists_visible_joined {keys : List Key} (hNonempty : keys ≠ [])
    (hKeys : ∀ key ∈ keys, key.Inserts) : ∃ c ∈ joined keys, Text.isBlank c = false := by
  obtain ⟨key, rest, rfl⟩ := List.exists_cons_of_ne_nil hNonempty
  have hKey := hKeys key List.mem_cons_self
  obtain ⟨c, hMem⟩ := List.exists_mem_of_ne_nil key.text hKey.text_ne_nil
  exact ⟨c, by simp [hMem], hKey.not_isBlank c hMem⟩

end Key

end DeskCalc
