import Nomen.Variable

namespace Nomen

structure Settings where
  useDebugSymbols : Bool := true
  placeholderMark : String := "V_"
  deriving DecidableEq

def Settings.isPlaceholder (settings : Settings) (name : String) : Bool :=
  settings.placeholderMark != "" && settings.placeholderMark.toList.isPrefixOf name.toList

def Settings.usable? (settings : Settings) (debugName : Option String) : Option String :=
  debugName.filter fun name =>
    settings.useDebugSymbols && !settings.isPlaceholder name && isIdentifier name

end Nomen
