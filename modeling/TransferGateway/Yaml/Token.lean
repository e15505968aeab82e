import TransferGateway.Yaml.Mark
import TransferGateway.Yaml.Tag

/-!
# Tokens of YAML

What a text is cut into before its nesting is read.
-/

namespace TransferGateway.Yaml

/-- How a scalar is written. -/
inductive ScalarStyle where
  | plain
  | singleQuoted
  | doubleQuoted
  | literal
  | folded
deriving DecidableEq, Repr, Inhabited

/-- The kinds of token. -/
inductive TokenKind where
  | streamEnd
  | version (major minor : Nat)
  /-- A tag handle stands for a longer beginning. -/
  | tagDirective (handle : String) (expansion : List UInt8)
  | documentStart
  | documentEnd
  | blockSequenceStart
  | blockMappingStart
  | blockEnd
  | flowSequenceStart
  | flowSequenceEnd
  | flowMappingStart
  | flowMappingEnd
  | blockEntry
  | flowEntry
  | key
  | value
  | alias (name : String)
  | anchor (name : String)
  | tag (tag : TagText)
  | scalar (style : ScalarStyle) (text : String)
deriving DecidableEq, Repr, Inhabited

/-- A token and where it stands. -/
structure Token where
  kind : TokenKind
  start : Mark
  stop : Mark
deriving DecidableEq, Repr, Inhabited

/-- The tokens that can be had of a text, and what stopped it if it was cut short. -/
structure TokenStream where
  tokens : List Token
  failure : Option SyntaxError := none
deriving Repr, Inhabited

end TransferGateway.Yaml
