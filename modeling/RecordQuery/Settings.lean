import RecordQuery.Limits
import RecordQuery.Setting

/-! Settings of the program. Whatever the layers leave out has its standard value. -/
namespace RecordQuery

structure LoggingSettings where
  level : String
  json : Bool
  deriving DecidableEq, Repr

structure PagingSettings where
  size : UInt64
  origin : UInt64
  deriving DecidableEq, Repr

structure Settings where
  logging : LoggingSettings
  paging : PagingSettings
  limits : Limits
  /-- Sorted by last, ascending, unless a request sorts by it anyway. -/
  tiebreaker : Option String
  deriving DecidableEq, Repr

namespace LoggingSettings

def standard : LoggingSettings := ⟨"warn", false⟩

def ofSetting? (setting : Setting) : Option LoggingSettings := do
  match ← setting.fields? ["level", "json"] with
  | [level, json] =>
    some ⟨← level.elim (some standard.level) Setting.text?,
      ← json.elim (some standard.json) Setting.flag?⟩
  | _ => none

def toJson (s : LoggingSettings) : Json :=
  .object [("level", .string s.level), ("json", .bool s.json)]

end LoggingSettings

namespace PagingSettings

def standard : PagingSettings := ⟨10, 1⟩

def ofSetting? (setting : Setting) : Option PagingSettings := do
  match ← setting.fields? ["size", "origin"] with
  | [size, origin] =>
    some ⟨← size.elim (some standard.size) Setting.word?,
      ← origin.elim (some standard.origin) Setting.word?⟩
  | _ => none

def toJson (s : PagingSettings) : Json :=
  .object [("size", .ofWord s.size), ("origin", .ofWord s.origin)]

end PagingSettings

def Limits.ofSetting? (setting : Setting) : Option Limits := do
  match ← setting.fields? Limits.fieldNames with
  | [depth, conditions, sortFields] =>
    some ⟨← depth.elim (some standard.maxDepth) Setting.word?,
      ← conditions.elim (some standard.maxConditions) Setting.word?,
      ← sortFields.elim (some standard.maxSortFields) Setting.word?⟩
  | _ => none

namespace Settings

def standard : Settings := ⟨.standard, .standard, .standard, none⟩

def ofSetting? (setting : Setting) : Option Settings := do
  match ← setting.fields? ["logging", "paging", "limits", "tiebreaker"] with
  | [logging, paging, limits, tiebreaker] =>
    some ⟨← logging.elim (some .standard) LoggingSettings.ofSetting?,
      ← paging.elim (some .standard) PagingSettings.ofSetting?,
      ← limits.elim (some .standard) Limits.ofSetting?,
      ← tiebreaker.elim (some none) (Setting.optional Setting.text?)⟩
  | _ => none

def toJson (s : Settings) : Json :=
  .object
    [("logging", s.logging.toJson), ("paging", s.paging.toJson), ("limits", s.limits.toJson),
      ("tiebreaker", (s.tiebreaker.map Json.string).getD .null)]

end Settings

end RecordQuery
