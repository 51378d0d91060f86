import ChangeFeed.Config.Basic
import ChangeFeed.Text.Terminal

/-!
# Configuration errors

Why properties are no configuration, and the wording of each cause.
-/

namespace ChangeFeed

/-- Why the values of the settings are refused. -/
inductive ArgumentError where
  /-- The value is none of those that the setting allows. -/
  | notAllowed (setting : Setting) (value : String)
  /-- The value is no numeral within the bounds of the setting. -/
  | badNumeral (setting : Setting) (value : String) (cause : Text.NumeralError)
  /-- Settings that every configuration needs are missing. -/
  | missing (settings : List Setting)
deriving Repr, DecidableEq

/-- Why properties are no configuration (`ConfigError`). -/
inductive ConfigError where
  | invalid (error : ArgumentError)
  | blankName
  | unknownFilter (name : String)
  | unknownHandler (name : String)
deriving Repr, DecidableEq

namespace ArgumentError

/-- A value as messages show it. -/
def shown (value : String) : String :=
  String.ofList (Text.visible .ground value.toList)

/-- The wording of a refused value. -/
def refusal (setting : Setting) (value : String) : String :=
  "error: invalid value '" ++ shown value ++ "' for '" ++ setting.argument ++ "'"

/-- The wording of each cause, cut to its first line. -/
def message (e : ArgumentError) : String :=
  let text :=
    match e with
    | notAllowed setting value =>
      if value.isEmpty then
        "error: a value is required for '" ++ setting.argument ++ "' but none was supplied"
      else refusal setting value
    | badNumeral setting value cause => refusal setting value ++ ": " ++ cause.message
    | missing _ => "error: the following required arguments were not provided:"
  String.ofList (Text.firstLine text.toList)

/-- The kind of each cause. -/
def kind : ArgumentError → String
  | notAllowed _ _ => "InvalidValue"
  | badNumeral _ _ _ => "ValueValidation"
  | missing _ => "MissingRequiredArgument"

/-- The settings that the error is about. -/
def settings : ArgumentError → List Setting
  | notAllowed setting _ => [setting]
  | badNumeral setting _ _ => [setting]
  | missing settings => settings

/-- The refused value, if the error is about one. -/
def value? : ArgumentError → Option String
  | notAllowed _ value => some value
  | badNumeral _ value _ => some value
  | missing _ => none

/-- Why the value is no numeral, if it should have been one. -/
def cause? : ArgumentError → Option Text.NumeralError
  | badNumeral _ _ cause => some cause
  | _ => none

end ArgumentError

/-- The wording of each cause. -/
def ConfigError.message : ConfigError → String
  | invalid e => "invalid source task configuration: " ++ e.message
  | blankName => "connector must have a non-blank 'name' config property"
  | unknownFilter name => "unknown event filter '" ++ name ++ "'"
  | unknownHandler name => "unknown source handler '" ++ name ++ "'"

end ChangeFeed
