import TranscriptLint.Arguments

namespace TranscriptLint

/-!
# Completion scripts

For each shell a short script that offers the commands and options of the program as the user
types.
-/

namespace CompletionScript

/-- The words that are offered: the commands and the options. -/
def words : List Text :=
  Scope.root.commands.map Prod.fst ++
    Scope.root.options.map fun o => "--".toList ++ o.long.toList

/-- The words with a space between any two. -/
def wordList : Text := Text.joinWith " ".toList words

/-- The words as quoted items of a list. -/
def quotedList (sep : String) : Text :=
  Text.joinWith sep.toList (words.map fun w => '\'' :: w ++ ['\''])

/-- The script for a shell. -/
def text : CompletionShell → Text
  | .bash => "complete -o default -W '".toList ++ wordList ++ "' shdoclint".toList
  | .zsh => "#compdef shdoclint\n_arguments '*:argument:_alternative \"words:word:(".toList ++
      wordList ++ ")\" \"files:file:_files\"'".toList
  | .fish => "complete -c shdoclint -a '".toList ++ wordList ++ "'".toList
  | .powershell =>
    "Register-ArgumentCompleter -Native -CommandName shdoclint -ScriptBlock \x7b\n".toList ++
      "  param($word)\n  ".toList ++ quotedList ", " ++
      " | Where-Object \x7b $_ -like \"$word*\" \x7d\n\x7d".toList
  | .elvish =>
    "set edit:completion:arg-completer[shdoclint] = \x7b|@words| put ".toList ++ wordList ++
      " \x7d".toList

end CompletionScript
end TranscriptLint
