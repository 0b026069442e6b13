import DeskCalc.Expr.Token

/-!
# Why an expression has no value

Each cause is a constructor; the wording stands in `CalcError.message` alone.
-/

namespace DeskCalc

/-- What is wrong with the order of the tokens. -/
inductive GrammarFault where
  /-- An operand directly follows an operand. -/
  | adjacentOperands
  /-- A function directly follows an operand. -/
  | operandBeforeFunction
  /-- A function is not followed by an opening parenthesis. -/
  | functionWithoutArgument
  /-- An opening parenthesis directly follows an operand. -/
  | operandBeforeOpening
  /-- A closing parenthesis stands where an operand is due. -/
  | emptyGroup
  /-- A negation directly follows an operand. -/
  | negationAfterOperand
  /-- An operator has no left operand. -/
  | missingLeftOperand
  /-- The expression ends where an operand is due. -/
  | incomplete
  /-- A parenthesis stands in an ordered expression. -/
  | parenthesisInRpn
  /-- An ordered expression leaves no value or several. -/
  | notOneValue
  /-- An operator of an ordered expression finds too few values. -/
  | missingOperand
deriving DecidableEq, Repr

/-- Why an expression has no value. -/
inductive CalcError where
  | emptyInput
  | invalidCharacter (c : Char)
  | unknownWord (word : Text)
  | invalidNumeral (run : Text)
  | grammar (fault : GrammarFault)
  | unbalancedParentheses
  | divisionByZero
  | outOfDomain (f : Function)
  | notFinite
deriving DecidableEq, Repr

/-- The wording of a grammar fault. -/
def GrammarFault.message : GrammarFault → String
  | .adjacentOperands => "deux opérandes consécutifs"
  | .operandBeforeFunction => "opérande avant une fonction"
  | .functionWithoutArgument => "fonction sans '('"
  | .operandBeforeOpening => "opérande avant '('"
  | .emptyGroup => "sous-expression vide"
  | .negationAfterOperand => "moins unaire après une valeur"
  | .missingLeftOperand => "opérateur sans opérande gauche"
  | .incomplete => "expression incomplète"
  | .parenthesisInRpn => "parenthèse inattendue en RPN"
  | .notOneValue => "expression invalide"
  | .missingOperand => "opérande manquant"

/-- The wording of an error. -/
def CalcError.message : CalcError → String
  | .emptyInput => "entrée vide"
  | .invalidCharacter c => "caractère invalide: '" ++ c.toString ++ "'"
  | .unknownWord word => "identifiant inconnu: '" ++ String.ofList word ++ "'"
  | .invalidNumeral run => "nombre invalide: '" ++ String.ofList run ++ "'"
  | .grammar fault => "syntaxe: " ++ fault.message
  | .unbalancedParentheses => "parenthèses déséquilibrées"
  | .divisionByZero => "division par zéro"
  | .outOfDomain f => String.ofList f.name ++ " : hors domaine"
  | .notFinite => "résultat non fini"

end DeskCalc
