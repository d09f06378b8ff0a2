/-
Module: Bindery.Prose.Token
Layer: Prose
Purpose: The tokens of a Markdown text. Tokens of nesting 1 open a container, of nesting -1 close
  one; the others are leaves. Line content and images hold tokens of their own.
Imports: none
Main exports: Attribute, Token, Token.attribute?, Token.attributeText
-/

namespace Bindery.Prose

/-- The value of an attribute. -/
inductive Attribute where
  | text (text : String)
  | number (value : Int)
deriving DecidableEq, Repr, Inhabited

/-- Zero and the empty text count as no value. -/
def Attribute.isVoid : Attribute → Bool
  | .text shown => shown = ""
  | .number value => value = 0

/-- The value as text. -/
def Attribute.shown : Attribute → String
  | .text shown => shown
  | .number value => toString value

/-- A token. `tag` names the element, `markup` the characters that marked it, `info` is the label of
    a fence; a hidden paragraph has no markup of its own. -/
structure Token where
  kind : String
  tag : String := ""
  nesting : Int := 0
  attributes : List (String × Attribute) := []
  content : String := ""
  markup : String := ""
  info : String := ""
  hidden : Bool := false
  children : List Token := []
deriving Repr, Inhabited

namespace Token

/-- The value of an attribute, unless it is void. -/
def attribute? (token : Token) (name : String) : Option Attribute :=
  (token.attributes.lookup name).filter (!·.isVoid)

/-- The value of an attribute as text. It is empty if there is none. -/
def attributeText (token : Token) (name : String) : String :=
  ((token.attribute? name).map Attribute.shown).getD ""

/-- The kind of a container without its ending, which has five characters. -/
def containerName (token : Token) : String :=
  String.ofList (token.kind.toList.reverse.drop 5).reverse

end Token

end Bindery.Prose
