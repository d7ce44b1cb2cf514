import EventNet.Number.Layout
import EventNet.Text.Quoted

/-!
The words of the expression language.
-/

namespace EventNet

/-- A word of the expression language, or the end of the text. -/
inductive Token where
  | ident (name : String)
  | number (x : Float)
  | str (s : String)
  | true | false | nil
  | and | or | not
  | eq | ne | lt | le | gt | ge
  | plus | minus | star | slash | percent
  | leftParen | rightParen | leftBracket | rightBracket
  | dot | comma
  | eof
  deriving DecidableEq, Repr, Inhabited

/-- How messages name a token. -/
def Token.describe : Token → String
  | .ident name => "identifier '" ++ name ++ "'"
  | .number x => "number " ++ Layout.plain.text x
  | .str s => "string " ++ Text.quoted s
  | .true => "True"
  | .false => "False"
  | .nil => "Nil"
  | .and => "And"
  | .or => "Or"
  | .not => "Not"
  | .eq => "Eq"
  | .ne => "Ne"
  | .lt => "Lt"
  | .le => "Le"
  | .gt => "Gt"
  | .ge => "Ge"
  | .plus => "Plus"
  | .minus => "Minus"
  | .star => "Star"
  | .slash => "Slash"
  | .percent => "Percent"
  | .leftParen => "LParen"
  | .rightParen => "RParen"
  | .leftBracket => "LBracket"
  | .rightBracket => "RBracket"
  | .dot => "Dot"
  | .comma => "Comma"
  | .eof => "end of input"

/-- A token and the byte offset where it starts. -/
structure Spanned where
  token : Token
  position : Nat
  deriving DecidableEq, Repr, Inhabited

end EventNet
