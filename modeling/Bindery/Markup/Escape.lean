/-
Module: Bindery.Markup.Escape
Layer: Markup
Purpose: Escaping of running text. Characters that would start Typst markup get a backslash; an
  underscore gets a space as well, so that it never joins the word before it.
Imports: none
Main exports: isLive, escapeChar, escapeChars, unescapeChars, escapeText, unescapeText
-/

namespace Bindery.Markup

/-- The characters, the underscore apart, that start Typst markup. -/
def liveCharacters : List Char := ['$', '#', '<', '>', '*', '\x60', '@']

/-- Does the character start Typst markup? The underscore is treated apart. -/
def isLive (c : Char) : Bool := liveCharacters.contains c

/-- How one character is written in running text. -/
def escapeChar (c : Char) : List Char :=
  if c = '_' then [' ', '\\', '_'] else if isLive c then ['\\', c] else [c]

/-- How characters are written in running text. -/
def escapeChars (text : List Char) : List Char := text.flatMap escapeChar

/-- Reads escaped running text back. A backslash before any other character stands for itself. -/
def unescapeChars : List Char → List Char
  | [] => []
  | [c] => [c]
  | ' ' :: '\\' :: '_' :: rest => '_' :: unescapeChars rest
  | c :: d :: rest =>
    if c = '\\' ∧ isLive d then d :: unescapeChars rest else c :: unescapeChars (d :: rest)

def escapeText (text : String) : String := String.ofList (escapeChars text.toList)

/-- The text that an escaped text stands for. -/
def unescapeText (text : String) : String := String.ofList (unescapeChars text.toList)

end Bindery.Markup
