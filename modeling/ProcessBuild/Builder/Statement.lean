/-
The statements of generated builder code. A statement opens a builder under a new variable or calls a method on the
builder that a variable is bound to. Each statement has its tokens; nothing else is ever put into the body of a
generated `build` function but its first line and its result.
-/
import ProcessBuild.Source.Token
import ProcessBuild.Process.Basic

namespace ProcessBuild.Builder

open Source

/-- an argument of a builder call -/
inductive Argument where
  | text (s : String)
  | flag (b : Bool)
  | int32 (i : Int32)
  | int64 (i : Int64)
  | node (id : NodeId)
  | optionalText (s : Option String)
  | gateway (g : Gateway)
  | dataType (typeName : String) (scope : List String)
  deriving DecidableEq, Repr

/-- a statement of builder code -/
inductive Statement where
  /-- bind a name to the builder that a method of the target opens for a node -/
  | bind (name target method : String) (id : NodeId)
  /-- call a method of the builder that the target is bound to -/
  | call (target method : String) (arguments : List Argument)
  deriving DecidableEq, Repr

/-- an integer literal with its type as suffix; the minus sign is a token of its own -/
def integerTokens (i : Int) (suffix : String) : List Token :=
  (if i < 0 then [.mark '-'] else []) ++ [.literal (toString i.natAbs ++ suffix)]

def flagToken (b : Bool) : Token := .word (if b then "true" else "false")

def gatewayName : Gateway → String
  | .xor => "Xor"
  | .and => "And"
  | .or => "Or"

def Argument.tokens : Argument → List Token
  | text s => [.string s]
  | flag b => [flagToken b]
  | int32 i => integerTokens i.toInt "i32"
  | int64 i => integerTokens i.toInt "i64"
  | node id => [.literal (toString id.toNat ++ "u64")]
  | optionalText none => [.word "None"]
  | optionalText (some s) => [.word "Some", .parens [.string s]]
  | gateway g => Token.path ["GatewayType", gatewayName g]
  | dataType typeName scope =>
    Token.path ["ObjectDataType", "new"] ++
      [.parens (.string typeName :: .mark ',' :: Token.path scope ++ Token.pathSeparator ++
        [.word "class_loader", .parens []])]

def Statement.tokens : Statement → List Token
  | bind name target method id =>
    [.word "let", .word name, .mark '=', .word target, .mark '.', .word method,
      .parens (Argument.node id).tokens, .mark ';']
  | call target method arguments =>
    [.word target, .mark '.', .word method, .parens (Token.separated (arguments.map Argument.tokens)), .mark ';']

def tokensOf (statements : List Statement) : List Token := statements.flatMap Statement.tokens

end ProcessBuild.Builder
