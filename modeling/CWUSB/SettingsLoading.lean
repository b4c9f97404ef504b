import CWUSB.Library.Overlay
import CWUSB.SettingsLines

/-!
# What a file loads

The settings are a store with a key for each option, and a line of a file is
an entry for one key, or nothing.  `LoadFromFile` writes the entries one after
the other: the last one for a key counts, whatever the other lines are.  What
it can read it could have saved, so that nothing is lost between a load and the
next one.
-/

namespace CWUSB

namespace SettingsModel

/-! ## The store -/

inductive Key where
  | logLevel
  | xLinkIp
  | xLinkPort
  | maxBufferedMessages
  | maxFatalRetries
  | maxReadWriteRetries
  | readTimeOutMS
  | writeTimeOutMS
deriving DecidableEq

inductive Value where
  | level (mLogLevel : Logger.Level)
  | text (text : List UInt8)
  | number (number : Int)
deriving DecidableEq

def Key.option : Key → List UInt8
  | .logLevel => cSaveLogLevel
  | .xLinkIp => cSaveXLinkIp
  | .xLinkPort => cSaveXLinkPort
  | .maxBufferedMessages => cSaveMaxBufferedMessages
  | .maxFatalRetries => cSaveMaxFatalRetries
  | .maxReadWriteRetries => cSaveMaxReadWriteRetries
  | .readTimeOutMS => cSaveReadTimeOutMS
  | .writeTimeOutMS => cSaveWriteTimeOutMS

/-- All keys, in the order `SaveToFile` writes them. -/
def Key.all : List Key :=
  [.logLevel, .xLinkIp, .xLinkPort, .maxBufferedMessages, .maxFatalRetries,
    .maxReadWriteRetries, .readTimeOutMS, .writeTimeOutMS]

/-- The settings as a store. -/
def get (settings : SettingsModel) : Key → Value
  | .logLevel => .level settings.mLogLevel
  | .xLinkIp => .text settings.mXLinkIp
  | .xLinkPort => .text settings.mXLinkPort
  | .maxBufferedMessages => .number settings.mMaxBufferedMessages
  | .maxFatalRetries => .number settings.mMaxFatalRetries
  | .maxReadWriteRetries => .number settings.mMaxReadWriteRetries
  | .readTimeOutMS => .number settings.mReadTimeOutMS
  | .writeTimeOutMS => .number settings.mWriteTimeOutMS

/-- What the value of a line says about a key. -/
def Key.read (key : Key) (lResult : List UInt8) : Option Value :=
  match key with
  | .logLevel =>
      some (.level (Logger.convertLogLevelStringToLevel (inner lResult)))
  | .xLinkIp | .xLinkPort => some (.text (inner lResult))
  | .maxBufferedMessages | .maxFatalRetries | .maxReadWriteRetries
  | .readTimeOutMS | .writeTimeOutMS =>
      (DecimalText.stoi (inner lResult)).toOption.map .number

def keyOf (lOption : List UInt8) : Option Key :=
  Key.all.find? fun key => key.option == lOption

/-- The entry of a line. -/
def entryOf (lLine : List UInt8) : Option (Key × Value) :=
  let (lOption, lResult) := splitLine (stripped lLine)
  if lResult.isEmpty then none
  else
    (keyOf lOption).bind fun key =>
      (key.read lResult).map fun value => (key, value)

/-- The lines with an end, with what was read of the first one before. -/
def endedLines (lLine : List UInt8) : List UInt8 → List (List UInt8)
  | [] => []
  | byte :: text =>
      if byte = newline then lLine :: endedLines [] text
      else endedLines (lLine ++ [byte]) text

/-- What a file says. -/
def fileEntries (text : List UInt8) : List (Key × Value) :=
  (endedLines [] text).filterMap entryOf

/-! ## One line -/

theorem keyOf_option (key : Key) : keyOf key.option = some key := by
  cases key <;> decide +kernel

theorem option_of_keyOf {lOption : List UInt8} {key : Key}
    (found : keyOf lOption = some key) : lOption = key.option := by
  have same := List.find?_some found
  rw [beq_iff_eq] at same
  exact same.symm

theorem unknown_of_keyOf {lOption : List UInt8}
    (missing : keyOf lOption = none) : lOption ∉ cOptions := by
  have options : cOptions = Key.all.map Key.option := rfl
  rw [options, List.mem_map]
  rintro ⟨key, _, rfl⟩
  rw [keyOf_option] at missing
  cases missing

/-- What the engine is told is not part of a file. -/
structure SameEngine (settings loaded : SettingsModel) : Prop where
  mEngineStatus : loaded.mEngineStatus = settings.mEngineStatus
  mCommand : loaded.mCommand = settings.mCommand

theorem eq_of_get {first second : SettingsModel}
    (same : first.get = second.get) (engine : second.SameEngine first) :
    first = second := by
  have values (key : Key) : first.get key = second.get key := by rw [same]
  have level := values .logLevel
  have ip := values .xLinkIp
  have port := values .xLinkPort
  have messages := values .maxBufferedMessages
  have fatal := values .maxFatalRetries
  have readWrite := values .maxReadWriteRetries
  have readTimeOut := values .readTimeOutMS
  have writeTimeOut := values .writeTimeOutMS
  simp only [get, Value.level.injEq, Value.text.injEq, Value.number.injEq]
    at level ip port messages fatal readWrite readTimeOut writeTimeOut
  obtain ⟨status, command⟩ := engine
  cases first
  cases second
  simp_all

section Line

variable (settings : SettingsModel)

/-- A number is written when it can be read. -/
theorem caught_map_number (key : Key) (set : Int → SettingsModel)
    (read : Except DecimalText.ReadException Int)
    (fields : ∀ value other, (set value).get other =
      Overlay.write settings.get (key, .number value) other)
    (engine : ∀ value, settings.SameEngine (set value)) :
    (settings.caught (read.map set)).get =
        ((read.toOption.map Value.number).map
          fun value => (key, value)).toList.foldl
            Overlay.write settings.get ∧
      settings.SameEngine (settings.caught (read.map set)) := by
  cases read with
  | ok value => exact ⟨funext (fields value), engine value⟩
  | error thrown => exact ⟨rfl, rfl, rfl⟩

/-- An option is written, or its value cannot be read. -/
theorem caught_assign_option (key : Key) (lResult : List UInt8) :
    (settings.caught (settings.assign key.option lResult)).get =
        ((key.read lResult).map fun value => (key, value)).toList.foldl
          Overlay.write settings.get ∧
      settings.SameEngine
        (settings.caught (settings.assign key.option lResult)) := by
  obtain ⟨level, ip, port⟩ := settings.assign_texts lResult
  obtain ⟨messages, fatal, readWrite, readTimeOut, writeTimeOut⟩ :=
    settings.assign_reads lResult
  cases key with
  | logLevel =>
      rw [Key.option, level]
      refine ⟨funext fun other => ?_, rfl, rfl⟩
      cases other <;> rfl
  | xLinkIp =>
      rw [Key.option, ip]
      refine ⟨funext fun other => ?_, rfl, rfl⟩
      cases other <;> rfl
  | xLinkPort =>
      rw [Key.option, port]
      refine ⟨funext fun other => ?_, rfl, rfl⟩
      cases other <;> rfl
  | maxBufferedMessages =>
      rw [Key.option, messages]
      refine settings.caught_map_number _ _ _ (fun _ other => ?_)
        fun _ => ⟨rfl, rfl⟩
      cases other <;> rfl
  | maxFatalRetries =>
      rw [Key.option, fatal]
      refine settings.caught_map_number _ _ _ (fun _ other => ?_)
        fun _ => ⟨rfl, rfl⟩
      cases other <;> rfl
  | maxReadWriteRetries =>
      rw [Key.option, readWrite]
      refine settings.caught_map_number _ _ _ (fun _ other => ?_)
        fun _ => ⟨rfl, rfl⟩
      cases other <;> rfl
  | readTimeOutMS =>
      rw [Key.option, readTimeOut]
      refine settings.caught_map_number _ _ _ (fun _ other => ?_)
        fun _ => ⟨rfl, rfl⟩
      cases other <;> rfl
  | writeTimeOutMS =>
      rw [Key.option, writeTimeOut]
      refine settings.caught_map_number _ _ _ (fun _ other => ?_)
        fun _ => ⟨rfl, rfl⟩
      cases other <;> rfl

/-- A line writes its entry. -/
theorem get_loadLine (lLine : List UInt8) :
    (settings.loadLine lLine).get =
        (entryOf lLine).toList.foldl Overlay.write settings.get ∧
      settings.SameEngine (settings.loadLine lLine) := by
  have loads : settings.loadLine lLine =
      if (splitLine (stripped lLine)).2.isEmpty then settings
      else
        settings.caught (settings.assign (splitLine (stripped lLine)).1
          (splitLine (stripped lLine)).2) := rfl
  rw [loads, entryOf]
  generalize splitLine (stripped lLine) = pieces
  obtain ⟨lOption, lResult⟩ := pieces
  by_cases empty : lResult.isEmpty
  · simp only [empty, if_true]
    exact ⟨rfl, rfl, rfl⟩
  · simp only [empty, Bool.false_eq_true, if_false]
    cases known : keyOf lOption with
    | none =>
        rw [settings.assign_of_unknown (unknown_of_keyOf known)]
        exact ⟨rfl, rfl, rfl⟩
    | some key =>
        rw [option_of_keyOf known]
        exact settings.caught_assign_option key lResult

end Line

/-! ## The file -/

theorem SameEngine.trans {first second third : SettingsModel}
    (earlier : first.SameEngine second) (later : second.SameEngine third) :
    first.SameEngine third where
  mEngineStatus := later.mEngineStatus.trans earlier.mEngineStatus
  mCommand := later.mCommand.trans earlier.mCommand

/-- The lines write what they say, one after the other. -/
theorem get_loadLines (settings : SettingsModel) (lLine text : List UInt8) :
    (settings.loadLines lLine text).get =
        ((endedLines lLine text).filterMap entryOf).foldl Overlay.write
          settings.get ∧
      settings.SameEngine (settings.loadLines lLine text) := by
  induction text generalizing settings lLine with
  | nil => exact ⟨rfl, rfl, rfl⟩
  | cons byte text induction =>
      rw [loadLines, endedLines]
      by_cases ended : byte = newline
      · obtain ⟨written, engine⟩ := settings.get_loadLine lLine
        obtain ⟨rest, kept⟩ := induction (settings.loadLine lLine) []
        rw [if_pos ended, if_pos ended]
        refine ⟨?_, engine.trans kept⟩
        rw [rest, written, List.filterMap_cons]
        cases entryOf lLine with
        | none => rfl
        | some entry => rfl
      · rw [if_neg ended, if_neg ended]
        exact induction settings (lLine ++ [byte])

/-- What a file says; one which cannot be opened says nothing. -/
def InputFile.entries : InputFile → List (Key × Value)
  | .notOpened => []
  | .opened text _ => fileEntries text

/-- The files loaded one after the other. -/
def loadAll (settings : SettingsModel) (files : List InputFile) :
    SettingsModel :=
  files.foldl (fun loaded file => (loaded.loadFromFile file).settings)
    settings

theorem get_loadFromFile (settings : SettingsModel) (file : InputFile) :
    (settings.loadFromFile file).settings.get =
        file.entries.foldl Overlay.write settings.get ∧
      settings.SameEngine (settings.loadFromFile file).settings := by
  cases file with
  | notOpened => exact ⟨rfl, rfl, rfl⟩
  | opened text eof => exact settings.get_loadLines [] text

theorem get_loadAll (settings : SettingsModel) (files : List InputFile) :
    (settings.loadAll files).get =
        (files.flatMap InputFile.entries).foldl Overlay.write settings.get ∧
      settings.SameEngine (settings.loadAll files) := by
  induction files generalizing settings with
  | nil => exact ⟨rfl, rfl, rfl⟩
  | cons file files induction =>
      obtain ⟨first, engine⟩ := settings.get_loadFromFile file
      obtain ⟨rest, kept⟩ := induction (settings.loadFromFile file).settings
      refine ⟨?_, engine.trans kept⟩
      rw [List.flatMap_cons, List.foldl_append, ← first]
      exact rest

/-- After any files, an option has the value of the last line which says one
for it, or the one it had before, and loading them again changes nothing. -/
theorem last_line_decides (settings : SettingsModel)
    (files : List InputFile) :
    (∀ key, (settings.loadAll files).get key =
        (Overlay.last (files.flatMap InputFile.entries) key).getD
          (settings.get key)) ∧
      settings.SameEngine (settings.loadAll files) ∧
      (settings.loadAll files).loadAll files = settings.loadAll files := by
  obtain ⟨once, engine⟩ := settings.get_loadAll files
  obtain ⟨twice, kept⟩ := (settings.loadAll files).get_loadAll files
  refine ⟨?_, engine, eq_of_get ?_ kept⟩
  · intro key
    rw [once, Overlay.foldl_write]
  · rw [twice, once]
    apply Overlay.foldl_write_absorbs
    intro key written
    exact written

/-! ## What is loaded can be saved -/

/-- What `SaveToFile` writes so that it can be read back. -/
def Value.Saveable : Value → Prop
  | .level _ => True
  | .text value => ∀ byte ∈ value, DecimalText.isspace byte = false
  | .number value => IsInt value

theorem saveable_iff {settings : SettingsModel} :
    settings.Saveable ↔ ∀ key, (settings.get key).Saveable := by
  constructor
  · intro saveable key
    cases key with
    | logLevel => trivial
    | xLinkIp => exact saveable.mXLinkIp
    | xLinkPort => exact saveable.mXLinkPort
    | maxBufferedMessages => exact saveable.mMaxBufferedMessages
    | maxFatalRetries => exact saveable.mMaxFatalRetries
    | maxReadWriteRetries => exact saveable.mMaxReadWriteRetries
    | readTimeOutMS => exact saveable.mReadTimeOutMS
    | writeTimeOutMS => exact saveable.mWriteTimeOutMS
  · intro each
    exact
      { mXLinkIp := each .xLinkIp
        mXLinkPort := each .xLinkPort
        mMaxBufferedMessages := each .maxBufferedMessages
        mMaxFatalRetries := each .maxFatalRetries
        mMaxReadWriteRetries := each .maxReadWriteRetries
        mReadTimeOutMS := each .readTimeOutMS
        mWriteTimeOutMS := each .writeTimeOutMS }

/-- White space is gone before the line is cut. -/
theorem not_isspace_of_mem_inner {lLine : List UInt8} {byte : UInt8}
    (member : byte ∈ inner (splitLine (stripped lLine)).2) :
    DecimalText.isspace byte = false := by
  have inResult : byte ∈ (splitLine (stripped lLine)).2 :=
    List.mem_of_mem_drop (List.mem_of_mem_take member)
  have inLine : byte ∈ stripped lLine := by
    rcases divides_splitLine (stripped lLine) with
      ⟨_, divided⟩ | ⟨_, _, whole⟩
    · rw [divided]
      exact List.mem_append_right _ (List.mem_cons_of_mem _ inResult)
    · rw [← whole]
      exact inResult
  simpa using (List.mem_filter.mp inLine).2

theorem Key.saveable_of_read {key : Key} {lLine : List UInt8} {value : Value}
    (read : key.read (splitLine (stripped lLine)).2 = some value) :
    value.Saveable := by
  have number {field : Value}
      (found : (DecimalText.stoi
        (inner (splitLine (stripped lLine)).2)).toOption.map Value.number =
          some field) : field.Saveable := by
    cases result : DecimalText.stoi
        (inner (splitLine (stripped lLine)).2) with
    | ok value =>
        rw [result] at found
        cases found
        exact DecimalText.bounds_of_stoi result
    | error thrown =>
        rw [result] at found
        cases found
  cases key with
  | logLevel =>
      cases read
      trivial
  | xLinkIp =>
      cases read
      exact fun _ => not_isspace_of_mem_inner
  | xLinkPort =>
      cases read
      exact fun _ => not_isspace_of_mem_inner
  | maxBufferedMessages => exact number read
  | maxFatalRetries => exact number read
  | maxReadWriteRetries => exact number read
  | readTimeOutMS => exact number read
  | writeTimeOutMS => exact number read

theorem saveable_of_entryOf {lLine : List UInt8} {entry : Key × Value}
    (found : entryOf lLine = some entry) : entry.2.Saveable := by
  simp only [entryOf, Option.ite_none_left_eq_some, Option.bind_eq_some_iff,
    Option.map_eq_some_iff] at found
  obtain ⟨_, key, _, value, read, rfl⟩ := found
  exact Key.saveable_of_read read

theorem InputFile.saveable_entries {file : InputFile} {entry : Key × Value}
    (member : entry ∈ file.entries) : entry.2.Saveable := by
  cases file with
  | notOpened => cases member
  | opened text eof =>
      obtain ⟨lLine, _, found⟩ := List.mem_filterMap.mp member
      exact saveable_of_entryOf found

/-- Loading keeps the settings such that they can be saved. -/
theorem saveable_loadAll {settings : SettingsModel}
    (saveable : settings.Saveable) (files : List InputFile) :
    (settings.loadAll files).Saveable := by
  rw [saveable_iff, (settings.get_loadAll files).1]
  intro key
  apply Overlay.foldl_write_mem (saveable_iff.mp saveable)
  intro entry member
  obtain ⟨file, _, said⟩ := List.mem_flatMap.mp member
  exact file.saveable_entries said

theorem saveable_default : ({} : SettingsModel).Saveable where
  mXLinkIp := by decide +kernel
  mXLinkPort := by decide +kernel
  mMaxBufferedMessages := by decide
  mMaxFatalRetries := by decide
  mMaxReadWriteRetries := by decide
  mReadTimeOutMS := by decide
  mWriteTimeOutMS := by decide

/-! ## What is saved can be loaded -/

def Value.print : Value → List UInt8
  | .level mLogLevel => Logger.convertLogLevelToString mLogLevel
  | .text value => value
  | .number value => DecimalText.toString value

/-- The settings with a line for each key. -/
def savedEntries (settings : SettingsModel) : List (Key × Value) :=
  Key.all.map fun key => (key, settings.get key)

theorem entries_eq (settings : SettingsModel) :
    settings.entries =
      settings.savedEntries.map fun entry =>
        (entry.1.option, entry.2.print) :=
  rfl

/-- What is written for a key is read back. -/
theorem read_print {settings : SettingsModel} {key : Key}
    (saveable : (settings.get key).Saveable) :
    key.read (quote :: (settings.get key).print ++ [quote]) =
      some (settings.get key) := by
  have number {value : Int} (isInt : IsInt value) :
      (DecimalText.stoi (inner
        (quote :: DecimalText.toString value ++ [quote]))).toOption.map
          Value.number = some (.number value) := by
    rw [stoi_quoted isInt]
    rfl
  cases key with
  | logLevel =>
      rw [Key.read, inner_quoted]
      exact congrArg (fun level => some (Value.level level))
        (Logger.convertLogLevel_roundTrip _)
  | xLinkIp =>
      rw [Key.read, inner_quoted]
      rfl
  | xLinkPort =>
      rw [Key.read, inner_quoted]
      rfl
  | maxBufferedMessages => exact number saveable
  | maxFatalRetries => exact number saveable
  | maxReadWriteRetries => exact number saveable
  | readTimeOutMS => exact number saveable
  | writeTimeOutMS => exact number saveable

theorem entryOf_lineOf {key : Key} {value : Value}
    (clean : Clean (key.option, value.print))
    (read : key.read (quote :: value.print ++ [quote]) = some value) :
    entryOf (lineOf (key.option, value.print)) = some (key, value) := by
  have split := splitLine_of_colon (fun byte member =>
    (clean.key byte member).2) (quote :: value.print ++ [quote])
  have strips : stripped (lineOf (key.option, value.print)) =
      key.option ++ colon :: (quote :: value.print ++ [quote]) :=
    filter_lineOf clean
  rw [entryOf, strips, split]
  simp only [keyOf_option, Option.bind_some, read, Option.map_some]
  rfl

theorem endedLines_line {lLine : List UInt8}
    (noNewline : ∀ byte ∈ lLine, byte ≠ newline) (before text : List UInt8) :
    endedLines before (lLine ++ newline :: text) =
      (before ++ lLine) :: endedLines [] text := by
  induction lLine generalizing before with
  | nil => simp [endedLines]
  | cons byte lLine induction =>
      have rest := induction
        (fun other member => noNewline other (List.mem_cons_of_mem _ member))
        (before ++ [byte])
      rw [List.cons_append, endedLines, if_neg (noNewline byte (by simp)),
        rest, List.append_assoc, List.singleton_append]

theorem endedLines_entries {entries : List (List UInt8 × List UInt8)}
    (clean : ∀ entry ∈ entries, Clean entry) :
    endedLines [] (entries.flatMap fun entry => lineOf entry ++ [newline]) =
      entries.map lineOf := by
  induction entries with
  | nil => rfl
  | cons entry entries induction =>
      have first := endedLines_line
        (newline_not_mem_lineOf (clean entry (by simp))) []
        (entries.flatMap fun entry => lineOf entry ++ [newline])
      rw [List.flatMap_cons, List.append_assoc, List.singleton_append, first,
        List.nil_append, List.map_cons, induction]
      exact fun other member => clean other (List.mem_cons_of_mem _ member)

/-- The saved text says every setting once, in the order of the keys. -/
theorem fileEntries_savedText {settings : SettingsModel}
    (saveable : settings.Saveable) :
    fileEntries settings.savedText = settings.savedEntries := by
  have clean := clean_entries saveable
  rw [fileEntries, savedText, endedLines_entries clean, entries_eq,
    List.map_map, List.filterMap_map]
  rw [entries_eq] at clean
  have each : ∀ entry ∈ settings.savedEntries,
      (entryOf ∘ lineOf ∘ fun entry : Key × Value =>
        (entry.1.option, entry.2.print)) entry = some entry := by
    intro entry member
    have line := clean _ (List.mem_map_of_mem member)
    obtain ⟨key, _, rfl⟩ := List.mem_map.mp member
    exact entryOf_lineOf line (read_print (saveable_iff.mp saveable key))
  rw [List.filterMap_congr each, List.filterMap_some]

theorem last_savedEntries (settings : SettingsModel) (key : Key) :
    Overlay.last settings.savedEntries key = some (settings.get key) := by
  cases key <;> rfl

/-- Settings which came from files are saved such that nothing is lost: the
text says every one of them, loading it gives them back whatever was set
before, and saving them again writes the same text. -/
theorem saved_as_loaded {settings : SettingsModel}
    (saveable : settings.Saveable) (files : List InputFile)
    (initial : SettingsModel) {text : List UInt8} {isOpen good : Bool}
    (written :
      (settings.loadAll files).saveToFile isOpen good = some text) :
    let saved := settings.loadAll files
    let loaded := initial.loadFromFile (.opened text true)
    fileEntries text = saved.savedEntries ∧
      loaded =
        { lReturn := true
          settings :=
            { saved with
              mEngineStatus := initial.mEngineStatus
              mCommand := initial.mCommand } } ∧
      loaded.settings.saveToFile isOpen good = some text := by
  intro saved loaded
  have opened : (isOpen && good) = true ∧ saved.savedText = text := by
    simpa only [saveToFile, Option.ite_none_right_eq_some,
      Option.some.injEq] using written
  obtain ⟨isOpened, saves⟩ := opened
  have written : fileEntries text = saved.savedEntries := by
    rw [← saves]
    exact fileEntries_savedText (saveable_loadAll saveable files)
  obtain ⟨overlaid, engine⟩ := initial.get_loadLines [] text
  have same : initial.loadLines [] text =
      { saved with
        mEngineStatus := initial.mEngineStatus
        mCommand := initial.mCommand } := by
    refine eq_of_get ?_ ⟨engine.mEngineStatus, engine.mCommand⟩
    funext key
    change _ = saved.get key
    rw [overlaid, ← fileEntries, written, Overlay.foldl_write,
      last_savedEntries]
    rfl
  have loads : loaded =
      { lReturn := true
        settings :=
          { saved with
            mEngineStatus := initial.mEngineStatus
            mCommand := initial.mCommand } } := by
    rw [← same]
    rfl
  refine ⟨written, loads, ?_⟩
  rw [loads, saveToFile, if_pos isOpened, ← saves]
  rfl

/-- A file without quotes around the address, and one which cannot be
opened. -/
theorem saved_as_loaded_unquoted :
    let saved := loadAll {}
      [.opened (literal "XLinkIp: 10.0.0.1\nVerbose\n") true, .notOpened]
    saved = { mXLinkIp := literal "0.0.0." } ∧
      loadFromFile { mEngineStatus := .running }
          (.opened saved.savedText true) =
        { lReturn := true
          settings := { saved with mEngineStatus := .running } } := by
  intro saved
  have loads := saved_as_loaded saveable_default
    [.opened (literal "XLinkIp: 10.0.0.1\nVerbose\n") true, .notOpened]
    { mEngineStatus := .running }
    (rfl : saved.saveToFile true true = some saved.savedText)
  exact ⟨by decide +kernel, loads.2.1⟩

end SettingsModel

end CWUSB
