/-!
# Redaction levels

How much user data may appear in log lines. Above the lowest level user data stands between tags,
so that a later stage can take it out.
-/

namespace ChangeFeed

/-- How much user data may appear in log lines (`RedactionLevel`). -/
inductive RedactionLevel where
  | none
  | part
  | full
deriving Repr, DecidableEq, Inhabited

namespace RedactionLevel

/-- The name of a level (`RedactionLevel.fmt`). -/
def name : RedactionLevel → String
  | none => "none"
  | part => "partial"
  | full => "full"

/-- All levels, from the least to the most redacting. -/
def all : List RedactionLevel := [none, part, full]

/-- The level of a name. -/
def ofName? (s : String) : Option RedactionLevel :=
  all.find? fun level => level.name == s

/-- The number of a level (`RedactionLevel.as_u8`). -/
def toUInt8 : RedactionLevel → UInt8
  | none => 0
  | part => 1
  | full => 2

/-- The level of a number; a number that names no level redacts everything
(`RedactionLevel.from_u8`). -/
def ofUInt8 (n : UInt8) : RedactionLevel :=
  if n = 0 then none else if n = 1 then part else full

/-- User data as it may be logged at a level (`redact_user`). -/
def redact (level : RedactionLevel) (text : String) : String :=
  match level with
  | none => text
  | part | full => "<ud>" ++ text ++ "</ud>"

/-- The number of a level stands for that level. -/
theorem ofUInt8_toUInt8 (level : RedactionLevel) : ofUInt8 level.toUInt8 = level := by
  cases level <;> rfl

/-- The name of a level stands for that level. -/
theorem ofName?_name (level : RedactionLevel) : ofName? level.name = some level := by
  cases level <;> rfl

end RedactionLevel

end ChangeFeed
