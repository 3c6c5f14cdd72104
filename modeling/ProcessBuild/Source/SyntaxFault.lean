/-
What can be wrong with source text, and the sentence for each fault. A fault at a place is told by the text there; a
fault at the end of a group or of the file says that the input ended.
-/
import ProcessBuild.Source.Token

namespace ProcessBuild.Source

/-- what a place in source text may hold -/
inductive Expected where
  | keyword (word : String)
  | symbol (text : String)
  | identifier
  | lifetime
  | literal
  | string
  | group (delimiter : Delimiter)
  deriving DecidableEq

def Expected.name : Expected → String
  | keyword word => "`" ++ word ++ "`"
  | symbol text => "`" ++ text ++ "`"
  | identifier => "identifier"
  | lifetime => "lifetime"
  | literal => "literal"
  | string => "string literal"
  | group .parenthesis => "parentheses"
  | group .bracket => "square brackets"
  | group .brace => "curly braces"

/-- why source text is refused -/
inductive Complaint where
  | noTokens
  | expected (alternatives : List Expected)
  | keywordAsIdentifier (word : String)
  | leftover (delimiter : Delimiter)
  | anyIdentifier
  | identifierOrUnderscore
  | identifierOrInteger
  | plainInteger
  | integer
  | delimiter
  | segment
  | expression
  | binaryOperator
  | loopOrBlock
  | commaOrSemicolon
  | missingSemicolon
  | upperBound
  | chainedComparison
  | castFollowedBy (what : String)
  | attributedRange
  | nestedAttribute
  | openRangeInSlice
  | parenthesesNeeded
  | secondReceiver
  | lateReceiver
  | negativeInherent
  | traitlessObject
  | traitlessImpl
  | genericWhere
  | capturing
  | constBound
  | conditionallyConstBound
  | binderWithPolarity
  deriving DecidableEq

def Delimiter.closingText : Delimiter → String
  | .parenthesis => ")"
  | .bracket => "]"
  | .brace => "\x7d"

namespace Complaint

def sentence : Complaint → String
  | noTokens => "cannot parse string into token stream"
  | expected [] => "unexpected token"
  | expected [a] => "expected " ++ a.name
  | expected [a, b] => "expected " ++ a.name ++ " or " ++ b.name
  | expected alternatives => "expected one of: " ++ String.intercalate ", " (alternatives.map Expected.name)
  | keywordAsIdentifier word => "expected identifier, found keyword `" ++ word ++ "`"
  | leftover d => "unexpected token, expected `" ++ d.closingText ++ "`"
  | anyIdentifier => "expected ident"
  | identifierOrUnderscore => "expected identifier or underscore"
  | identifierOrInteger => "expected identifier or integer"
  | plainInteger => "expected unsuffixed integer"
  | integer => "expected integer literal"
  | delimiter => "expected delimiter"
  | segment => "expected path segment after `::`"
  | expression => "expected an expression"
  | binaryOperator => "expected binary operator"
  | loopOrBlock => "expected loop or block expression"
  | commaOrSemicolon => "expected `,` or `;`"
  | missingSemicolon => "unexpected token, expected `;`"
  | upperBound => "expected range upper bound"
  | chainedComparison => "comparison operators cannot be chained"
  | castFollowedBy what => "casts cannot be followed by " ++ what
  | attributedRange => "attributes are not allowed on range expressions starting with `..`"
  | nestedAttribute => "unexpected attribute inside of attribute"
  | openRangeInSlice => "range pattern is not allowed unparenthesized inside slice pattern"
  | parenthesesNeeded => "parentheses required"
  | secondReceiver => "unexpected second method receiver"
  | lateReceiver => "unexpected method receiver"
  | negativeInherent => "inherent impls cannot be negative"
  | traitlessObject => "at least one trait is required for an object type"
  | traitlessImpl => "at least one trait must be specified"
  | genericWhere => "generic parameters on `where` clauses are reserved for future use"
  | capturing => "`use<...>` precise capturing syntax is not allowed here"
  | constBound => "`const` is not allowed here"
  | conditionallyConstBound => "`[const]` is not allowed here"
  | binderWithPolarity => "`for<...>` binder not allowed with `?` trait polarity modifier"

/-- the sentence of a complaint at the end of the input -/
def sentenceAtEnd : Complaint → String
  | expected [] => "unexpected end of input"
  | c => "unexpected end of input, " ++ c.sentence

end Complaint

/-- a fault: its place, none for the end of the file, whether it tells of the end of the input, and the complaint -/
structure SyntaxFault where
  place : Option Nat
  atEnd : Bool
  complaint : Complaint
  deriving DecidableEq

/-- the text of a fault without its place -/
def SyntaxFault.message (f : SyntaxFault) : String :=
  if f.atEnd then f.complaint.sentenceAtEnd else f.complaint.sentence

end ProcessBuild.Source
