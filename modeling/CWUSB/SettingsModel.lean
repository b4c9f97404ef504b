import CWUSB.Library.DecimalText
import CWUSB.XLinkKaiConnection

/-!
# The settings and their file

`SaveToFile` writes one line for each setting, a key and a quoted value.
`LoadFromFile` reads the lines back: it drops all white space of a line, splits
it at the first colon and takes away the outer characters of the value.
Whatever the values are, quotes and colons included, they survive.
-/

namespace CWUSB

/-! ## Log levels -/

namespace Logger

inductive Level where
  | trace
  | debug
  | info
  | warning
  | error
deriving DecidableEq

/-- The value of the enumerator. -/
def Level.index : Level → Nat
  | .trace => 0
  | .debug => 1
  | .info => 2
  | .warning => 3
  | .error => 4

def cLevels : List Level := [.trace, .debug, .info, .warning, .error]

def cLevelTexts : List (List UInt8) :=
  [literal "Trace", literal "Debug", literal "Info", literal "Warning",
    literal "Error"]

def cDefaultLogLevel : Level := .info

def convertLogLevelToString (aLogLevel : Level) : List UInt8 :=
  cLevelTexts.getD aLogLevel.index []

/-- Whether `find` finds the part in the text. -/
def contains (text part : List UInt8) : Bool :=
  text.tails.any fun rest => part.isPrefixOf rest

/-- The last level whose text contains the string. -/
def convertLogLevelStringToLevel (aLevel : List UInt8) : Level :=
  (cLevelTexts.zip cLevels).foldl
    (fun lReturn entry =>
      if contains entry.1 aLevel then entry.2 else lReturn)
    cDefaultLogLevel

/-- No text of a level contains that of another one. -/
theorem convertLogLevel_roundTrip (aLogLevel : Level) :
    convertLogLevelStringToLevel (convertLogLevelToString aLogLevel) =
      aLogLevel := by
  cases aLogLevel <;> decide

end Logger

/-! ## `SettingsModel` -/

inductive EngineStatus where
  | idle
  | running
  | error
deriving DecidableEq

inductive Command where
  | startEngine
  | stopEngine
  | saveSettings
  | noCommand
deriving DecidableEq

def cSaveLogLevel : List UInt8 := literal "LogLevel"
def cSaveXLinkIp : List UInt8 := literal "XLinkIp"
def cSaveXLinkPort : List UInt8 := literal "XLinkPort"
def cSaveMaxBufferedMessages : List UInt8 := literal "MaxBuffer"
def cSaveMaxFatalRetries : List UInt8 := literal "MaxRetriesAfterFatalError"
def cSaveMaxReadWriteRetries : List UInt8 :=
  literal "MaxRetriesWhenReadWriteFailed"
def cSaveReadTimeOutMS : List UInt8 := literal "MaxReadTimeoutMS"
def cSaveWriteTimeOutMS : List UInt8 := literal "MaxWriteTimeoutMS"

structure SettingsModel where
  mLogLevel : Logger.Level := Logger.cDefaultLogLevel
  mXLinkIp : List UInt8 := literal "127.0.0.1"
  mXLinkPort : List UInt8 := literal "34523"
  mMaxBufferedMessages : Int := 1000
  mMaxFatalRetries : Int := 5000
  mMaxReadWriteRetries : Int := 5000
  mReadTimeOutMS : Int := 2
  mWriteTimeOutMS : Int := 2
  mEngineStatus : EngineStatus := .idle
  mCommand : Command := .noCommand
deriving DecidableEq

namespace SettingsModel

/-! ## Saving -/

def colon : UInt8 := 58
def quote : UInt8 := 34
def newline : UInt8 := 10

/-- The keys and values of the lines, in their order. -/
def entries (settings : SettingsModel) : List (List UInt8 × List UInt8) :=
  [(cSaveLogLevel, Logger.convertLogLevelToString settings.mLogLevel),
    (cSaveXLinkIp, settings.mXLinkIp),
    (cSaveXLinkPort, settings.mXLinkPort),
    (cSaveMaxBufferedMessages,
      DecimalText.toString settings.mMaxBufferedMessages),
    (cSaveMaxFatalRetries, DecimalText.toString settings.mMaxFatalRetries),
    (cSaveMaxReadWriteRetries,
      DecimalText.toString settings.mMaxReadWriteRetries),
    (cSaveReadTimeOutMS, DecimalText.toString settings.mReadTimeOutMS),
    (cSaveWriteTimeOutMS, DecimalText.toString settings.mWriteTimeOutMS)]

/-- A line without its end. -/
def lineOf (entry : List UInt8 × List UInt8) : List UInt8 :=
  entry.1 ++ colon :: 32 :: quote :: entry.2 ++ [quote]

/-- What `SaveToFile` writes. -/
def savedText (settings : SettingsModel) : List UInt8 :=
  settings.entries.flatMap fun entry => lineOf entry ++ [newline]

/-- `SaveToFile`, given whether the file can be opened and whether it can be
written; the text is in the file when the function returns true. -/
def saveToFile (settings : SettingsModel) (isOpen good : Bool) :
    Option (List UInt8) :=
  if isOpen && good then some settings.savedText else none

/-! ## Loading -/

/-- The value without its outer characters, whatever these are. -/
def inner (lResult : List UInt8) : List UInt8 :=
  (lResult.drop 1).take (lResult.length - 2)

/-- The assignments of an option; the exceptions are those of `stoi`. -/
def assign (settings : SettingsModel) (lOption lResult : List UInt8) :
    Except DecimalText.ReadException SettingsModel :=
  if lOption == cSaveLogLevel then
    .ok
      { settings with
        mLogLevel := Logger.convertLogLevelStringToLevel (inner lResult) }
  else if lOption == cSaveXLinkIp then
    .ok { settings with mXLinkIp := inner lResult }
  else if lOption == cSaveXLinkPort then
    .ok { settings with mXLinkPort := inner lResult }
  else if lOption == cSaveMaxBufferedMessages then
    (DecimalText.stoi (inner lResult)).map fun value =>
      { settings with mMaxBufferedMessages := value }
  else if lOption == cSaveMaxFatalRetries then
    (DecimalText.stoi (inner lResult)).map fun value =>
      { settings with mMaxFatalRetries := value }
  else if lOption == cSaveMaxReadWriteRetries then
    (DecimalText.stoi (inner lResult)).map fun value =>
      { settings with mMaxReadWriteRetries := value }
  else if lOption == cSaveReadTimeOutMS then
    (DecimalText.stoi (inner lResult)).map fun value =>
      { settings with mReadTimeOutMS := value }
  else if lOption == cSaveWriteTimeOutMS then
    (DecimalText.stoi (inner lResult)).map fun value =>
      { settings with mWriteTimeOutMS := value }
  else
    -- Unknown options are only logged.
    .ok settings

/-- The option and the result of a line; without a colon both are the line,
since `npos + 1` is 0. -/
def splitLine (lLine : List UInt8) : List UInt8 × List UInt8 :=
  match lLine.findIdx? (· == colon) with
  | some lUntilDelimiter =>
      (lLine.take lUntilDelimiter, lLine.drop (lUntilDelimiter + 1))
  | none => (lLine, lLine)

/-- The body of the loop for a line; exceptions are caught and logged. -/
def loadLine (settings : SettingsModel) (lLine : List UInt8) :
    SettingsModel :=
  let lLine := lLine.filter fun byte => !DecimalText.isspace byte
  let (lOption, lResult) := splitLine lLine
  if lResult.isEmpty then settings
  else
    match settings.assign lOption lResult with
    | .ok assigned => assigned
    | .error _ => settings

/-- The loop over the lines, with what `getline` has read of a line so far.
A line which ends with the file is not used. -/
def loadLines (settings : SettingsModel) (lLine : List UInt8) :
    List UInt8 → SettingsModel
  | [] => settings
  | byte :: text =>
      if byte = newline then loadLines (settings.loadLine lLine) [] text
      else loadLines settings (lLine ++ [byte]) text

/-- A file to load: it cannot be opened, or its text is read up to the end of
the file or up to an error. -/
inductive InputFile where
  | notOpened
  | opened (text : List UInt8) (eof : Bool)

structure Loaded where
  lReturn : Bool
  settings : SettingsModel
deriving DecidableEq

def loadFromFile (settings : SettingsModel) : InputFile → Loaded
  | .notOpened => { lReturn := false, settings := settings }
  | .opened text eof =>
      { lReturn := eof, settings := settings.loadLines [] text }

end SettingsModel

end CWUSB
