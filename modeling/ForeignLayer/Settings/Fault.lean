import ForeignLayer.Text.Letter

/-!
# Faults of settings

Why a setting or a list of pairs is refused. A value of the wrong kind is the only fault whose
reason is not worked out any further.
-/

namespace ForeignLayer.Settings

/-- The groups of settings; `all` is the group of groups. -/
inductive Group where
  | all
  | source
  | table
  | planner
deriving DecidableEq, Repr

/-- The name of a group in messages. -/
def Group.name : Group → String
  | all => "OgrFdwOptions"
  | source => "OgrServerOptions"
  | table => "OgrTableOptions"
  | planner => "OgrPlannerOptions"

/-- Why a setting is refused. -/
inductive Fault where
  /-- A group has no setting of the name. -/
  | unknown (key : String) (group : Group)
  /-- The value is no truth value, or no number, where the setting takes one. -/
  | unreadable
  /-- An encoding is set to blanks. -/
  | emptyEncoding
  /-- A part of a list of pairs is no pair. -/
  | malformedPair (token : String)
deriving DecidableEq, Repr

/-- The wording of a fault. -/
def Fault.message : Fault → String
  | unknown key group => "Config value \"" ++ key ++ "\" not found on " ++ group.name
  | unreadable => "The value cannot be read"
  | emptyEncoding => "Character encoding must not be empty"
  | malformedPair token => "Invalid option '" ++ token ++ "'. Expected KEY=VALUE"

end ForeignLayer.Settings
