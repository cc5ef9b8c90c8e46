/-!
# Shell/Quoting — words as a POSIX shell reads them

A word made of harmless characters stands as it is.  Any other is put between single quotes, where a
single quote of its own is written as a closing quote, an escaped quote and an opening quote.
-/

namespace LaunchLine.Shell

/-- Whether the character means nothing to the shell. -/
def isPlain (c : Char) : Bool :=
  c.isAlphanum || ['_', '@', '%', '+', '=', ':', ',', '.', '/', '-'].contains c

/-- A character inside single quotes. -/
def quoteChar (c : Char) : List Char :=
  if c = '\x27' then ['\x27', '\\', '\x27', '\x27'] else [c]

/-- A word, quoted if it has to be. -/
def quote (word : String) : List Char :=
  if word ≠ "" && word.toList.all isPlain then word.toList
  else '\x27' :: word.toList.flatMap quoteChar ++ ['\x27']

/-- An empty word, too, is a word of the command line. -/
theorem quote_ne_nil (word : String) : quote word ≠ [] := by
  unfold quote
  split
  · next h => simp_all
  · simp

/-- A command line: the program and its arguments, one blank apart. -/
def commandLine (program : String) (arguments : List String) : String :=
  String.ofList ([' '].intercalate ((program :: arguments).map quote))

end LaunchLine.Shell
