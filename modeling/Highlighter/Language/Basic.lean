import Highlighter.Language.Recipe

/-!
# Built-in languages

The languages that the highlighter knows by itself, with their names, file extensions and grammars.
-/

namespace Highlighter

/-- A language with a built-in grammar, in the order of registration. -/
inductive Language where
  | c89
  | c
  | cpp
  | php
  | perl
  | java
  | csharp
  | ruby
  | python
  | pascal
  | sql
  | xml
  | scheme
  | plainText
  deriving DecidableEq, Inhabited

namespace Language

/-- Every built-in language, in order. -/
def all : List Language :=
  [c89, c, cpp, php, perl, java, csharp, ruby, python, pascal, sql, xml, scheme, plainText]

/-- The list has every language. -/
@[simp] theorem mem_all (l : Language) : l ∈ all := by cases l <;> decide

/-- The name under which a language is registered. -/
def name : Language → String
  | c89 => "C89"
  | c => "C"
  | cpp => "C++"
  | php => "PHP"
  | perl => "Perl"
  | java => "Java"
  | csharp => "C#"
  | ruby => "Ruby"
  | python => "Python"
  | pascal => "Pascal"
  | sql => "SQL"
  | xml => "XML"
  | scheme => "Scheme"
  | plainText => "Plain Text"

/-- The file extensions of a language. -/
def extensions : Language → List String
  | c89 => []
  | c => ["c", "h"]
  | cpp => ["cpp", "cc", "cxx", "hpp", "hh", "hxx"]
  | php => ["php", "php3", "php4", "php5", "phtml"]
  | perl => ["pl", "pm", "t"]
  | java => ["java"]
  | csharp => ["cs"]
  | ruby => ["rb", "rake"]
  | python => ["py", "pyw"]
  | pascal => ["pas", "pp", "dpr"]
  | sql => ["sql", "ddl"]
  | xml => ["xml", "html", "htm", "xhtml", "xsl", "svg"]
  | scheme => ["scm", "ss", "sld", "rkt"]
  | plainText => ["txt", "text"]

/-- The calls that make a language, and none for plain text, which is passed through. -/
def recipe : Language → List Call
  | c89 => Recipe.c89
  | c => Recipe.c
  | cpp => Recipe.cpp
  | php => Recipe.php
  | perl => Recipe.perl
  | java => Recipe.java
  | csharp => Recipe.csharp
  | ruby => Recipe.ruby
  | python => Recipe.python
  | pascal => Recipe.pascal
  | sql => Recipe.sql
  | xml => Recipe.xml
  | scheme => Recipe.scheme
  | plainText => []

/-- What the grammar of a language starts from. -/
def base : Language → Grammar
  | plainText => .passthrough
  | _ => .empty ""

/-- The builder of a language with all its calls made. -/
def builder (l : Language) : Builder := (Builder.derive l.base l.name).run l.recipe

/-- The grammar of a language: what its calls make of what it starts from. -/
def grammar (l : Language) : Grammar := l.recipe.foldl Grammar.apply { l.base with name := l.name }

/-- The builder of a language has its grammar. -/
@[simp] theorem grammar_builder (l : Language) : l.builder.grammar = l.grammar :=
  Builder.grammar_run _ _

end Language
end Highlighter
