import Nomen.Json.Reader
import Nomen.Settings

namespace Nomen

open Json

namespace Settings

inductive Field where
  | useDebugSymbols | placeholderMark
  deriving DecidableEq

abbrev Field.Content : Field → Type
  | useDebugSymbols => Bool
  | placeholderMark => String

def layout : Layout Field Field.Content where
  name := "NamingSettings"
  fields := [.useDebugSymbols, .placeholderMark]
  key
    | .useDebugSymbols => "use_debug_symbols"
    | .placeholderMark => "generated_name_prefix"
  default?
    | .useDebugSymbols => some ({} : Settings).useDebugSymbols
    | .placeholderMark => some ({} : Settings).placeholderMark
  strict := true

def build (content : (field : Field) → field.Content) : Settings :=
  ⟨content .useDebugSymbols, content .placeholderMark⟩

def read : Reader Settings :=
  layout.readRecord build (some fun
    | .useDebugSymbols => readBool
    | .placeholderMark => readString)

def toJson (settings : Settings) : Value :=
  .record [("use_debug_symbols", .bool settings.useDebugSymbols),
    ("generated_name_prefix", .text settings.placeholderMark)]

def ofText (text : String) : Except Misfit Settings :=
  readText read text

end Settings

end Nomen
