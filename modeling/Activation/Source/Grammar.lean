import Activation.Source.Grammar.Items
import Activation.Source.Lexer

/-!
# The grammar

The table of the rules, and the two ways in which source is read by it: as an implementation, and
as the declaration of a type.
-/

namespace Activation.Source

namespace Grammar

/-- What each rule stands for. -/
def phrase : Rule → Phrase
  | .type plus => typePhrase plus
  | .segment inExpression => segment inExpression
  | .argument => argument
  | .bound capturing constant => bound capturing constant
  | .genericParameter unnamed => genericParameter unnamed
  | .pattern => patternPhrase
  | .alternatives => alternativesPhrase
  | .expression braces => expressionPhrase braces
  | .operand braces => operandPhrase braces
  | .shortExpression => shortExpressionPhrase
  | .rightOperand rank braces => rightOperand rank braces
  | .statements => statements
  | .item => itemPhrase
  | .namedFields => namedFields
  | .usedNames outer => usedNames outer

end Grammar

/-- The single tree that a phrase gives for a whole source. -/
def parseSource? (phrase : Phrase) (source : String) : Option Tree :=
  match Tree.read? source with
  | none => none
  | some trees =>
    match phrase.parse? Grammar.phrase trees with
    | some [t] => some t
    | _ => none

end Activation.Source
