import DeskCalc.Proofs.Expr.Tree

/-!
# The grammar of expressions

The rules, in the usual notation:

    sum     := product (('+' | '-') product)*
    product := power (('*' | '/') power)*
    power   := operand ('^' power)?
    operand := ('-' | neg | '+') operand | atom
    atom    := number | constant | '(' sum ')' | function '(' sum ')'

`Derives phrase tokens e` is a derivation of `tokens` as that phrase, and `e`
is its tree. A repetition is read from the left, each further term taking all
before it as its left operand. A minus sign in front of an operand is a
negation; a plus sign and parentheses leave no trace in the tree.

## Main results

* `Derives.exists_snoc` — a sum may be continued by any operator and operand.
-/

namespace DeskCalc

/-- The phrases of the grammar, from the loosest to the tightest. -/
inductive Phrase where
  | sum | product | power | operand | atom
deriving DecidableEq, Repr

/-- The derivations of the grammar with the trees they stand for. -/
inductive Derives : Phrase → List Token → ExprTree → Prop where
  | number (x : Binary64) : Derives .atom [.number x] (.number x)
  | constant (c : Constant) : Derives .atom [.constant c] (.constant c)
  | group {tokens e} (inner : Derives .sum tokens e) :
      Derives .atom (.opening :: tokens ++ [.closing]) e
  | call (f : Function) {tokens e} (argument : Derives .sum tokens e) :
      Derives .atom (.function f :: .opening :: tokens ++ [.closing]) (.call f e)
  | atom {tokens e} (inner : Derives .atom tokens e) : Derives .operand tokens e
  | minus {tokens e} (inner : Derives .operand tokens e) :
      Derives .operand (.binary .sub :: tokens) (.negate e)
  | negate {tokens e} (inner : Derives .operand tokens e) :
      Derives .operand (.negate :: tokens) (.negate e)
  | plus {tokens e} (inner : Derives .operand tokens e) :
      Derives .operand (.binary .add :: tokens) e
  | operand {tokens e} (inner : Derives .operand tokens e) : Derives .power tokens e
  | raise {base exponent e f} (left : Derives .operand base e)
      (right : Derives .power exponent f) :
      Derives .power (base ++ .binary .pow :: exponent) (.binary .pow e f)
  | power {tokens e} (inner : Derives .power tokens e) : Derives .product tokens e
  | scale {op factors factor e f} (hOp : op = .mul ∨ op = .div)
      (left : Derives .product factors e) (right : Derives .power factor f) :
      Derives .product (factors ++ .binary op :: factor) (.binary op e f)
  | product {tokens e} (inner : Derives .product tokens e) : Derives .sum tokens e
  | combine {op terms term e f} (hOp : op = .add ∨ op = .sub)
      (left : Derives .sum terms e) (right : Derives .product term f) :
      Derives .sum (terms ++ .binary op :: term) (.binary op e f)

namespace Derives

variable {tokens operand : List Token} {e f : ExprTree}

/-- A power may be continued by one more exponent at its top. -/
theorem exists_raise (h : Derives .power tokens e) (hOperand : Derives .operand operand f) :
    ∃ g, Derives .power (tokens ++ .binary .pow :: operand) g := by
  generalize hPhrase : Phrase.power = phrase at h
  induction h with
  | operand inner => exact ⟨_, .raise inner (.operand hOperand)⟩
  | raise left right _ ihRight =>
      obtain ⟨g, hRight⟩ := ihRight rfl
      rw [List.append_assoc]
      exact ⟨_, .raise left hRight⟩
  | _ => cases hPhrase

/-- A product may be continued by one more exponent on its last factor. -/
theorem exists_raise_product (h : Derives .product tokens e)
    (hOperand : Derives .operand operand f) :
    ∃ g, Derives .product (tokens ++ .binary .pow :: operand) g := by
  cases h with
  | power inner =>
      obtain ⟨g, hPower⟩ := exists_raise inner hOperand
      exact ⟨g, .power hPower⟩
  | scale hOp left right =>
      obtain ⟨g, hPower⟩ := exists_raise right hOperand
      rw [List.append_assoc]
      exact ⟨_, .scale hOp left hPower⟩

/-- A product may be continued by any operator tighter than a sum's. -/
theorem exists_snoc_product (h : Derives .product tokens e) {op : BinaryOp}
    (hOp : op = .mul ∨ op = .div ∨ op = .pow) (hOperand : Derives .operand operand f) :
    ∃ g, Derives .product (tokens ++ .binary op :: operand) g := by
  rcases hOp with rfl | rfl | rfl
  · exact ⟨_, .scale (.inl rfl) h (.operand hOperand)⟩
  · exact ⟨_, .scale (.inr rfl) h (.operand hOperand)⟩
  · exact exists_raise_product h hOperand

/-- **A sum may be continued by any operator and operand**; the operator takes
as much of the sum's end as it binds. -/
theorem exists_snoc (h : Derives .sum tokens e) (op : BinaryOp)
    (hOperand : Derives .operand operand f) :
    ∃ g, Derives .sum (tokens ++ .binary op :: operand) g := by
  by_cases hAdditive : op = .add ∨ op = .sub
  · exact ⟨_, .combine hAdditive h (.power (.operand hOperand))⟩
  · have hOp : op = .mul ∨ op = .div ∨ op = .pow := by
      cases op <;> simp at hAdditive ⊢
    cases h with
    | product inner =>
        obtain ⟨g, hProduct⟩ := exists_snoc_product inner hOp hOperand
        exact ⟨g, .product hProduct⟩
    | combine hSum left right =>
        obtain ⟨g, hProduct⟩ := exists_snoc_product right hOp hOperand
        rw [List.append_assoc]
        exact ⟨_, .combine hSum left hProduct⟩

/-- A single operand is a sum. -/
theorem sum_of_operand (h : Derives .operand tokens e) : Derives .sum tokens e :=
  .product (.power (.operand h))

end Derives

end DeskCalc
