import Highlighter.Registry.Basic

/-!
# Flavors

The surface syntax that sample texts of a language are made of: its comments, its quotes, and odd
pieces that try its corners.
-/

namespace Highlighter

/-- What a sample text of a language may hold. -/
structure Flavor where
  lineComments : List String
  blockComments : List (String × String)
  quotes : List Char
  extras : List String
  deriving DecidableEq

namespace Flavor

/-- C without line comments. -/
def c89 : Flavor where
  lineComments := []
  blockComments := [("/*", "*/")]
  quotes := ['"', '\'']
  extras := ["#define", "//", "/'", "\\\n"]

/-- C and what derives from it. -/
def c : Flavor where
  lineComments := ["//"]
  blockComments := [("/*", "*/")]
  quotes := ['"', '\'']
  extras := ["#include", "/\"", "\\\n", "'\\''"]

/-- PHP. -/
def php : Flavor where
  lineComments := ["//", "#"]
  blockComments := [("/*", "*/")]
  quotes := ['"', '\'', '\x60']
  extras := ["$this", "<?php", "\\\""]

/-- Languages with comments behind a hash sign. -/
def script : Flavor where
  lineComments := ["#"]
  blockComments := []
  quotes := ['"', '\'', '\x60']
  extras := ["$x", "@y", "%h", "\\'"]

/-- Pascal. -/
def pascal : Flavor where
  lineComments := ["//"]
  blockComments := [("\x7b", "\x7d"), ("(*", "*)")]
  quotes := ['\'']
  extras := ["''", "(x)", "(**)", ":="]

/-- SQL. -/
def sql : Flavor where
  lineComments := ["--"]
  blockComments := [("/*", "*/")]
  quotes := ['\'', '"']
  extras := ["''", "-'", "- -", "\\'"]

/-- XML. -/
def xml : Flavor where
  lineComments := []
  blockComments := [("<", ">"), ("<?", "?>"), ("&", ";"), ("</", ">")]
  quotes := ['"', '\'']
  extras := ["&amp;", "&lt;", "<a b=\"c\">", "& ", "&x<"]

/-- Scheme. -/
def scheme : Flavor where
  lineComments := [";"]
  blockComments := [("#|", "|#")]
  quotes := ['"']
  extras := ["#\\a", "#\\", "#t", "'sym", "'x\"", "call/cc", "set!"]

/-- Texts of no language in particular. -/
def mixed : Flavor where
  lineComments := ["//", "#", "--", ";"]
  blockComments := [("/*", "*/"), ("<", ">")]
  quotes := ['"', '\'']
  extras := ["&amp;", "<b>"]

/-- The flavor of a built-in language. -/
def ofLanguage : Language → Flavor
  | .c89 => c89
  | .c | .cpp | .java | .csharp => c
  | .php => php
  | .perl | .ruby | .python => script
  | .pascal => pascal
  | .sql => sql
  | .xml => xml
  | .scheme => scheme
  | .plainText => mixed

/-- The flavor of a language name in any ASCII case. -/
def ofName (language : String) : Flavor :=
  match Language.all.find? fun l => Ascii.sameIgnoringCase language l.name with
  | some l => ofLanguage l
  | none => mixed

end Flavor
end Highlighter
