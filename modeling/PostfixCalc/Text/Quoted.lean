/-
# Quoted text

A diagnostic shows a text between double quotes in a form where every
character can be seen: the quote and the backslash are escaped, five controls
have short names, and any other concealed character is written by its code
point in hexadecimal. An apostrophe needs no escape.
-/

import PostfixCalc.Text.Concealed

namespace PostfixCalc.Text

/-- A code point in lowercase hexadecimal, without padding, between braces. -/
def codePointEscape (c : Char) : List Char :=
  '\\' :: 'u' :: '\x7b' :: (Nat.toDigits 16 c.toNat ++ ['\x7d'])

/-- The visible form of one character inside quotes. -/
def escapeChar (c : Char) : List Char :=
  if c = '\x00' then ['\\', '0']
  else if c = '\t' then ['\\', 't']
  else if c = '\n' then ['\\', 'n']
  else if c = '\r' then ['\\', 'r']
  else if c = '"' then ['\\', '"']
  else if c = '\\' then ['\\', '\\']
  else if isConcealed c then codePointEscape c
  else [c]

/-- A text between double quotes, every character visible. -/
def quoted (text : String) : String :=
  String.ofList ('"' :: (text.toList.flatMap escapeChar ++ ['"']))

/-- Texts separated by a comma and a space. -/
def commaSeparated (texts : List String) : String :=
  ", ".intercalate texts

/-- A list of quoted texts between brackets. -/
def quotedList (texts : List String) : String :=
  "[" ++ commaSeparated (texts.map quoted) ++ "]"

/-- A set of quoted texts between braces, in the given order. -/
def quotedSet (texts : List String) : String :=
  "\x7b" ++ commaSeparated (texts.map quoted) ++ "\x7d"

end PostfixCalc.Text
