import SampleRecorder.Settings.Basic

/-!
# Settings as JSON text

Settings are written in full, in the order of their declaration.  Only the optional settings of the line parser and
the value of a rule are left out where they are not set.
-/

namespace SampleRecorder

/-- A member that is left out where nothing is set. -/
def Json.whenSet (key : String) (value : Option Json) : List (String × Json) :=
  value.toList.map fun v => (key, v)

/-- The settings of the line source as a JSON object. -/
def Source.Settings.toJson (s : Source.Settings) : Json :=
  .obj [("baudRate", .int s.baudRate), ("delimiter", .str s.delimiter), ("encoding", .str s.encoding),
    ("lineEnding", .str s.lineEnding)]

/-- The settings of the line parser as a JSON object. -/
def Line.Settings.toJson (s : Line.Settings) : Json :=
  .obj ([("type", .str s.kind.label)] ++ Json.whenSet "splitDelimiter" (s.splitDelimiter.map .str) ++
    Json.whenSet "regex" (s.regex.map .str) ++ Json.whenSet "regexGroups" (s.regexGroups.map .strings) ++
    Json.whenSet "customParser" (s.customParser.map .str) ++ [("skipLines", .strings s.skipLines)])

/-- A class as a JSON object. -/
def SampleClass.toJson (c : SampleClass) : Json :=
  .obj [("id", .str c.id), ("name", .str c.name), ("color", .str c.color)]

/-- A rule as a JSON object. -/
def Rule.toJson (r : Rule) : Json :=
  .obj ([("id", .str r.id), ("condition", .str r.condition), ("action", .str r.action.name)] ++
    Json.whenSet "value" (r.value.map .str) ++ [("enabled", .bool r.enabled)])

/-- The settings of exports as a JSON object. -/
def Export.Settings.toJson (s : Export.Settings) : Json :=
  .obj [("template", .str s.template), ("filename", .str s.filename), ("includeHeader", .bool s.includeHeader)]

/-- The settings of the recording as a JSON object. -/
def Recording.Settings.toJson (s : Recording.Settings) : Json :=
  .obj [("autoStopSeconds", .int s.autoStopSeconds), ("enableLabeling", .bool s.enableLabeling)]

/-- The settings of the log as a JSON object. -/
def Log.Settings.toJson (s : Log.Settings) : Json :=
  .obj [("level", .str s.level), ("persistToFile", .bool s.persistToFile), ("maxEntries", .int s.maxEntries)]

namespace Transmit

/-- A quick command as a JSON object. -/
def QuickCommand.toJson (c : QuickCommand) : Json :=
  .obj [("id", .str c.id), ("label", .str c.label), ("command", .str c.command), ("enabled", .bool c.enabled)]

/-- The command of a class as a JSON object. -/
def ClassCommand.toJson (c : ClassCommand) : Json :=
  .obj [("classId", .str c.classId), ("command", .str c.command), ("enabled", .bool c.enabled)]

/-- The commands of events as a JSON object. -/
def Automated.toJson (a : Automated) : Json :=
  .obj [("onConnect", .str a.onConnect), ("onDisconnect", .str a.onDisconnect),
    ("onRecordingStart", .str a.onRecordingStart), ("onRecordingStop", .str a.onRecordingStop),
    ("delayBetweenCommands", .int a.delay)]

/-- The settings of the transmitter as a JSON object. -/
def Settings.toJson (s : Settings) : Json :=
  .obj [("enabled", .bool s.enabled), ("encoding", .str s.encoding.label), ("lineEnding", .str s.lineEnding),
    ("quickCommands", .arr (s.quickCommands.map (·.toJson))), ("classCommands", .arr (s.classCommands.map (·.toJson))),
    ("automatedCommands", s.automated.toJson)]

end Transmit

namespace Settings

/-- All settings as a JSON object. -/
def toJson (s : Settings) : Json :=
  .obj [("serial", s.serial.toJson), ("parser", s.line.toJson), ("fields", .strings s.fields),
    ("classes", .arr (s.classes.map (·.toJson))), ("rules", .arr (s.rules.map (·.toJson))),
    ("export", s.exports.toJson), ("recording", s.recording.toJson), ("logging", s.log.toJson),
    ("serialTx", s.transmit.toJson)]

/-- All settings as indented JSON text. -/
def text (s : Settings) : String :=
  String.ofList s.toJson.pretty

end Settings

end SampleRecorder
