/-
Token trees with their places. A place is the number of characters before it in the source text; forgetting the places
gives the tokens (`Tree.token`).
-/
import ProcessBuild.Source.Token

namespace ProcessBuild.Source

/-- a token tree and where it starts; a group also keeps where it is closed -/
inductive Tree where
  | word (start : Nat) (name : String)
  | punct (start : Nat) (c : Char) (joint : Bool)
  | literal (start : Nat) (text : String)
  | group (opened closed : Nat) (delimiter : Delimiter) (inner : List Tree)
  deriving Inhabited

namespace Tree

def start : Tree → Nat
  | word start _ => start
  | punct start _ _ => start
  | literal start _ => start
  | group opened _ _ _ => opened

mutual

def token : Tree → Token
  | word _ name => .word name
  | punct _ c joint => .punct c joint
  | literal _ text => .literal text
  | group _ _ d inner => .group d (tokens inner)

def tokens : List Tree → List Token
  | [] => []
  | t :: rest => t.token :: tokens rest

end

mutual

/-- the number of trees in a tree, itself counted -/
def count : Tree → Nat
  | group _ _ _ inner => 1 + countAll inner
  | _ => 1

/-- the number of trees in a list of trees at every depth -/
def countAll : List Tree → Nat
  | [] => 0
  | t :: rest => t.count + countAll rest

end

end Tree
end ProcessBuild.Source
