import ClassGroups.Formatting

/-!
# Interactive mode

Class lists are pasted line by line. Two blank lines in a row complete a block, which is then
formatted as one class list; a single blank line inside a block is passed over.
-/

namespace ClassGroups

/-- The completed blocks of a list of lines, when the lines of `pending` belong to the block that is
being pasted and `blanks` blank lines have just been read. -/
def completedBlocks (pending : List Text) (blanks : Nat) : List Text → List (List Text)
  | [] => []
  | line :: rest =>
    if line.all isBlank then
      if blanks = 0 then completedBlocks pending 1 rest
      else if pending.isEmpty then completedBlocks [] 0 rest
      else pending :: completedBlocks [] 0 rest
    else completedBlocks (pending ++ [line]) 0 rest

/-- The class lists that a stream completes. -/
def pastedClasses (stream : Text) : List Text :=
  (completedBlocks [] 0 (Text.streamLines stream)).map fun block =>
    Text.trim (Text.intercalate " " block)

/-- What is shown at the start. -/
def banner : Text :=
  Text.unlines ["Tailwind Class Formatter", "========================",
    "Paste your Tailwind classes and press Enter twice:", ""]

/-- What is shown for a formatted class list. -/
def resultSection (f : Formatted) : Text :=
  Text.unlines ["", "Formatted Output:", "----------------", f.text, "", "",
    "Paste more classes or press Ctrl+D to exit:", ""]

/-- What became of each class list that a stream completes. -/
def pasted (o : Options) (stream : Text) : List Formatted := (pastedClasses stream).map (format o)

/-- What is shown for a stream. -/
def transcript (o : Options) (stream : Text) : Text :=
  banner ++ ((pasted o stream).map resultSection).flatten

/-- What is shown for a stream under settings, which are checked when the first class list is
completed. -/
def Settings.transcript (s : Settings) (stream : Text) : Except ConfigError Text :=
  if (pastedClasses stream).isEmpty then .ok banner
  else do
    let o ← s.check
    return ClassGroups.transcript o stream

end ClassGroups
