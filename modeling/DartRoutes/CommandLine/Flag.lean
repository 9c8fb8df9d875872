import DartRoutes.Text.Digit
import DartRoutes.Text.Quoted

/-!
# Flags of the command line

Every argument of the command line is a word or mentions a flag. A flag with two dashes may be cut
short as long as only one flag starts that way, and a value may be attached to a flag.
-/

namespace DartRoutes

namespace CommandLine

inductive Flag where
  | help
  | projectRoot
  | packageName
  | config
  | noScaffold
  deriving DecidableEq, Repr

def spellings : List (Text × Flag) :=
  [("-h", .help), ("--help", .help), ("--project-root", .projectRoot), ("-p", .projectRoot),
    ("--package-name", .packageName), ("--config", .config), ("--no-scaffold", .noScaffold)]

/-- Does the flag have a value? -/
def Flag.takesValue : Flag → Bool
  | .projectRoot | .packageName | .config => true
  | .help | .noScaffold => false

/-- How the flag is named in a message. -/
def Flag.title (flag : Flag) : Text :=
  Text.join "/" ((spellings.filter (·.2 = flag)).map Prod.fst)

/-- Why the arguments are refused. -/
inductive UsageFault where
  | ambiguous (argument : Text) (spellings : List Text)
  | missingValue (flag : Flag)
  | needlessValue (flag : Flag) (value : Text)
  | unknownStage (name : Text) (choices : List Text)
  | unrecognized (arguments : List Text)
  deriving DecidableEq, Repr

def UsageFault.message : UsageFault → Text
  | .ambiguous argument spellings =>
      "ambiguous option: " ++ argument ++ " could match " ++ Text.join ", " spellings
  | .missingValue flag => "argument " ++ flag.title ++ ": expected one argument"
  | .needlessValue flag value =>
      "argument " ++ flag.title ++ ": ignored explicit argument " ++ value.quoted
  | .unknownStage name choices =>
      "argument stage: invalid choice: " ++ name.quoted ++ " (choose from "
        ++ Text.join ", " (choices.map Text.quoted) ++ ")"
  | .unrecognized arguments => "unrecognized arguments: " ++ Text.join " " arguments

/-- A text that belongs to the flag in front of it. -/
inductive Attachment where
  /-- Behind a flag with two dashes and an equals sign. -/
  | value (text : Text)
  /-- Behind a flag with a single dash, with or without an equals sign between them; more flags may
  be attached in this way. -/
  | glued (text : Text)
  deriving DecidableEq, Repr

inductive Argument where
  | word (text : Text)
  | mention (flag : Flag) (attachment? : Option Attachment)
  | unknown (text : Text)
  /-- The mark behind which every argument is a word. -/
  | separator
  deriving DecidableEq, Repr

namespace Argument

/-- The separator as it is written. -/
def separatorText : Text := "--"

/-- The parts of a text before and behind its first equals sign. -/
def splitValue? (text : Text) : Option (Text × Text) :=
  match text.dropWhile (· != '=') with
  | [] => none
  | _ :: value => some (text.takeWhile (· != '='), value)

/-- The spellings that an argument may stand for, each with the mention that it is then. -/
def candidates (text : Text) : List (Text × Argument) :=
  match text with
  | '-' :: '-' :: _ =>
      let (stem, attachment?) : Text × Option Attachment := match splitValue? text with
        | some (stem, value) => (stem, some (.value value))
        | none => (text, none)
      (spellings.filter (stem.isPrefixOf ·.1)).map fun (spelling, flag) =>
        (spelling, .mention flag attachment?)
  | '-' :: letter :: rest =>
      (spellings.filter (·.1 = ['-', letter])).map fun (spelling, flag) =>
        (spelling, .mention flag (some (.glued rest)))
  | _ => []

/-- Is the text a minus sign with a decimal number behind it? -/
def isNegativeNumber : Text → Bool
  | '-' :: number =>
      let number := (Text.withoutEnding? ['\n'] number).getD number
      let part := number.dropWhile isDecimalDigit
      match part with
      | [] => !number.isEmpty
      | '.' :: digits => !digits.isEmpty && digits.all isDecimalDigit
      | _ => false
  | _ => false

/-- A value behind a spelling and an equals sign. -/
def attach (spelling value : Text) : Attachment :=
  if separatorText.isPrefixOf spelling then .value value else .glued value

/-- A mention of a flag by its full spelling, with or without a value behind an equals sign. -/
def mention? (text : Text) : Option Argument :=
  match spellings.lookup text, splitValue? text with
  | some flag, _ => some (.mention flag none)
  | none, some (stem, value) =>
      (spellings.lookup stem).map fun flag => .mention flag (some (attach stem value))
  | none, none => none

/-- An argument that starts with a dash. -/
def ofDashed (text : Text) : Except UsageFault Argument :=
  match mention? text with
  | some argument => .ok argument
  | none =>
      match candidates text with
      | [(_, argument)] => .ok argument
      | [] =>
          .ok (if isNegativeNumber text || text.contains ' ' then .word text else .unknown text)
      | several => .error (.ambiguous text (several.map Prod.fst))

/-- The arguments as they are written. -/
def ofTexts : List Text → Except UsageFault (List Argument)
  | [] => .ok []
  | text :: texts =>
      if text = separatorText then .ok (.separator :: texts.map word)
      else
        match text with
        | '-' :: _ :: _ => do
            let argument ← ofDashed text
            return argument :: (← ofTexts texts)
        | _ => (word text :: ·) <$> ofTexts texts

end Argument

end CommandLine

end DartRoutes
