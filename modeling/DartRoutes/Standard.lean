import DartRoutes.CommandLine.Request
import DartRoutes.Text.TidyMarkup
import DartRoutes.Workspace.Services
import DartRoutes.Yaml.Document

/-!
# Standard services

The loader and the console with which the program runs: documents are written in YAML, and a text is
refused if one of its tags closes nothing. An attached separator counts as no value.
-/

namespace DartRoutes

namespace Yaml.Fault

/-- How a fault is called. -/
def kind : Fault → Text
  | .malformed => "YAMLError"
  | .unknownFlag _ => "KeyError"
  | .noTimestamp => "AttributeError"
  | .mappedTimestamp => "TypeError"
  | .noDigits => "IndexError"
  | .numeral .tooLarge => "OverflowError"
  | .endlessDefault => "RecursionError"
  | .characterRange code => if code < 0x80000000 then "ValueError" else "OverflowError"
  | _ => "ValueError"

def asDocumentFault (fault : Fault) : DocumentFault :=
  ⟨fault.isMalformed, fault.kind, fault.message⟩

end Yaml.Fault

instance : DocumentLoader where
  load text := (Yaml.load text).mapError Yaml.Fault.asDocumentFault

instance : Console where
  fault? := Markup.fault?
  fault?_of_isTidy := Markup.IsTidy.fault?

instance : CommandLine.ArgumentRules where
  keepsSeparator := false

end DartRoutes
