import CWUSB.SettingsModel

/-!
# Saving and loading the settings

A value without white space comes back from its line, since the key has no
colon and exactly the two quotes are taken away.  The lines are read one after
the other, each one setting its own field.
-/

namespace CWUSB

namespace SettingsModel

/-- The value of an `int`. -/
def IsInt (value : Int) : Prop :=
  -2147483648 ≤ value ∧ value ≤ 2147483647

instance (value : Int) : Decidable (IsInt value) :=
  inferInstanceAs (Decidable (_ ∧ _))

/-- The address and the port have no white space, and the numbers are those of
the type. -/
structure Saveable (settings : SettingsModel) : Prop where
  mXLinkIp : ∀ byte ∈ settings.mXLinkIp, DecimalText.isspace byte = false
  mXLinkPort : ∀ byte ∈ settings.mXLinkPort, DecimalText.isspace byte = false
  mMaxBufferedMessages : IsInt settings.mMaxBufferedMessages
  mMaxFatalRetries : IsInt settings.mMaxFatalRetries
  mMaxReadWriteRetries : IsInt settings.mMaxReadWriteRetries
  mReadTimeOutMS : IsInt settings.mReadTimeOutMS
  mWriteTimeOutMS : IsInt settings.mWriteTimeOutMS

/-! ## One line -/

/-- A key without colon and white space, and a value without white space. -/
structure Clean (entry : List UInt8 × List UInt8) : Prop where
  key : ∀ byte ∈ entry.1, DecimalText.isspace byte = false ∧ byte ≠ colon
  value : ∀ byte ∈ entry.2, DecimalText.isspace byte = false

theorem inner_quoted (value : List UInt8) :
    inner (quote :: value ++ [quote]) = value := by
  simp [inner]

theorem filter_lineOf {entry : List UInt8 × List UInt8} (clean : Clean entry) :
    (lineOf entry).filter (fun byte => !DecimalText.isspace byte) =
      entry.1 ++ colon :: (quote :: entry.2 ++ [quote]) := by
  have key : entry.1.filter (fun byte => !DecimalText.isspace byte) =
      entry.1 :=
    List.filter_eq_self.mpr fun byte member => by
      rw [(clean.key byte member).1, Bool.not_false]
  have value : entry.2.filter (fun byte => !DecimalText.isspace byte) =
      entry.2 :=
    List.filter_eq_self.mpr fun byte member => by
      rw [clean.value byte member, Bool.not_false]
  have ofColon : DecimalText.isspace colon = false := by decide
  have ofBlank : DecimalText.isspace 32 = true := by decide
  have ofQuote : DecimalText.isspace quote = false := by decide
  simp [lineOf, key, value, ofColon, ofBlank, ofQuote]

theorem splitLine_of_colon {key : List UInt8}
    (noColon : ∀ byte ∈ key, byte ≠ colon) (result : List UInt8) :
    splitLine (key ++ colon :: result) = (key, result) := by
  have found : (key ++ colon :: result).findIdx? (· == colon) =
      some key.length := by
    induction key with
    | nil => simp [List.findIdx?_cons]
    | cons byte key induction =>
        have notColon := noColon byte (by simp)
        have rest := induction fun other member =>
          noColon other (List.mem_cons_of_mem _ member)
        simp [List.findIdx?_cons, notColon, rest]
  rw [splitLine, found]
  simp

/-- The effect of a line on the settings. -/
def assigned (settings : SettingsModel)
    (entry : List UInt8 × List UInt8) : SettingsModel :=
  match settings.assign entry.1 (quote :: entry.2 ++ [quote]) with
  | .ok assigned => assigned
  | .error _ => settings

theorem loadLine_lineOf (settings : SettingsModel)
    {entry : List UInt8 × List UInt8} (clean : Clean entry) :
    settings.loadLine (lineOf entry) = settings.assigned entry := by
  have split := splitLine_of_colon (fun byte member =>
    (clean.key byte member).2) (quote :: entry.2 ++ [quote])
  simp only [loadLine, filter_lineOf clean, split]
  rfl

/-! ## All lines -/

theorem loadLines_line {lLine : List UInt8}
    (noNewline : ∀ byte ∈ lLine, byte ≠ newline) (settings : SettingsModel)
    (read text : List UInt8) :
    loadLines settings read (lLine ++ newline :: text) =
      loadLines (settings.loadLine (read ++ lLine)) [] text := by
  induction lLine generalizing read with
  | nil => simp [loadLines]
  | cons byte lLine induction =>
      have notNewline := noNewline byte (by simp)
      have rest := induction
        (fun other member => noNewline other (List.mem_cons_of_mem _ member))
        (read ++ [byte])
      rw [List.cons_append, loadLines, if_neg notNewline, rest]
      simp

theorem newline_not_mem_lineOf {entry : List UInt8 × List UInt8}
    (clean : Clean entry) : ∀ byte ∈ lineOf entry, byte ≠ newline := by
  have space : DecimalText.isspace newline = true := by decide
  have inKey : newline ∉ entry.1 := by
    intro member
    rw [(clean.key newline member).1] at space
    cases space
  have inValue : newline ∉ entry.2 := by
    intro member
    rw [clean.value newline member] at space
    cases space
  rintro byte member rfl
  simp [lineOf, inKey, inValue] at member
  revert member
  decide

/-- The lines are loaded one after the other. -/
theorem loadLines_entries {entries : List (List UInt8 × List UInt8)}
    (clean : ∀ entry ∈ entries, Clean entry) (settings : SettingsModel) :
    loadLines settings []
        (entries.flatMap fun entry => lineOf entry ++ [newline]) =
      entries.foldl assigned settings := by
  induction entries generalizing settings with
  | nil => rfl
  | cons entry entries induction =>
      have first := clean entry (by simp)
      have line := loadLines_line (newline_not_mem_lineOf first) settings []
        (entries.flatMap fun entry => lineOf entry ++ [newline])
      rw [List.flatMap_cons, List.append_assoc, List.singleton_append, line,
        List.foldl_cons, List.nil_append, loadLine_lineOf settings first,
        induction]
      exact fun other member => clean other (List.mem_cons_of_mem _ member)

/-- The keys have neither colon nor white space. -/
theorem clean_entries {settings : SettingsModel}
    (saveable : settings.Saveable) :
    ∀ entry ∈ settings.entries, Clean entry := by
  have level : ∀ byte ∈ Logger.convertLogLevelToString settings.mLogLevel,
      DecimalText.isspace byte = false := by
    cases settings.mLogLevel <;> decide +kernel
  intro entry member
  simp only [entries, List.mem_cons, List.not_mem_nil, or_false] at member
  rcases member with rfl | rfl | rfl | rfl | rfl | rfl | rfl | rfl
  · exact ⟨by dsimp only; decide +kernel, level⟩
  · exact ⟨by dsimp only; decide +kernel, saveable.mXLinkIp⟩
  · exact ⟨by dsimp only; decide +kernel, saveable.mXLinkPort⟩
  all_goals
    refine ⟨by dsimp only; decide +kernel, ?_⟩
    exact fun _ inText => DecimalText.not_isspace_toString inText

/-! ## Each setting -/

section Assign

variable (settings : SettingsModel) (value : List UInt8)

theorem assign_texts (lResult : List UInt8) :
    settings.assign cSaveLogLevel lResult =
        .ok
          { settings with
            mLogLevel :=
              Logger.convertLogLevelStringToLevel (inner lResult) } ∧
      settings.assign cSaveXLinkIp lResult =
        .ok { settings with mXLinkIp := inner lResult } ∧
      settings.assign cSaveXLinkPort lResult =
        .ok { settings with mXLinkPort := inner lResult } := by
  refine ⟨?_, ?_, ?_⟩
  all_goals
    unfold assign
    simp +decide only [if_true, if_false]

theorem assign_reads (lResult : List UInt8) :
    let read := DecimalText.stoi (inner lResult)
    settings.assign cSaveMaxBufferedMessages lResult =
        read.map (fun value =>
          { settings with mMaxBufferedMessages := value }) ∧
      settings.assign cSaveMaxFatalRetries lResult =
        read.map (fun value =>
          { settings with mMaxFatalRetries := value }) ∧
      settings.assign cSaveMaxReadWriteRetries lResult =
        read.map (fun value =>
          { settings with mMaxReadWriteRetries := value }) ∧
      settings.assign cSaveReadTimeOutMS lResult =
        read.map (fun value =>
          { settings with mReadTimeOutMS := value }) ∧
      settings.assign cSaveWriteTimeOutMS lResult =
        read.map (fun value =>
          { settings with mWriteTimeOutMS := value }) := by
  refine ⟨?_, ?_, ?_, ?_, ?_⟩
  all_goals
    unfold assign
    simp +decide only [if_true, if_false]

theorem assign_logLevel (mLogLevel : Logger.Level) :
    settings.assign cSaveLogLevel
        (quote :: Logger.convertLogLevelToString mLogLevel ++ [quote]) =
      .ok { settings with mLogLevel := mLogLevel } := by
  rw [(settings.assign_texts _).1, inner_quoted,
    Logger.convertLogLevel_roundTrip]

theorem assign_xLinkIp :
    settings.assign cSaveXLinkIp (quote :: value ++ [quote]) =
      .ok { settings with mXLinkIp := value } := by
  rw [(settings.assign_texts _).2.1, inner_quoted]

theorem assign_xLinkPort :
    settings.assign cSaveXLinkPort (quote :: value ++ [quote]) =
      .ok { settings with mXLinkPort := value } := by
  rw [(settings.assign_texts _).2.2, inner_quoted]

theorem stoi_quoted {number : Int} (isInt : IsInt number) :
    DecimalText.stoi (inner (quote :: DecimalText.toString number ++ [quote])) =
      .ok number := by
  rw [inner_quoted, DecimalText.stoi_toString isInt.1 isInt.2]

theorem assign_numbers {number : Int} (isInt : IsInt number) :
    let lResult := quote :: DecimalText.toString number ++ [quote]
    settings.assign cSaveMaxBufferedMessages lResult =
        .ok { settings with mMaxBufferedMessages := number } ∧
      settings.assign cSaveMaxFatalRetries lResult =
        .ok { settings with mMaxFatalRetries := number } ∧
      settings.assign cSaveMaxReadWriteRetries lResult =
        .ok { settings with mMaxReadWriteRetries := number } ∧
      settings.assign cSaveReadTimeOutMS lResult =
        .ok { settings with mReadTimeOutMS := number } ∧
      settings.assign cSaveWriteTimeOutMS lResult =
        .ok { settings with mWriteTimeOutMS := number } := by
  intro lResult
  have reads := settings.assign_reads lResult
  rw [stoi_quoted isInt] at reads
  exact reads

end Assign

/-- Whatever is loaded into, the saved text gives the saved settings, and
leaves the status and the command alone. -/
theorem settings_round_trip {saved : SettingsModel} (saveable : saved.Saveable)
    (initial : SettingsModel) {text : List UInt8} {isOpen good : Bool}
    (written : saved.saveToFile isOpen good = some text) :
    initial.loadFromFile (.opened text true) =
      { lReturn := true
        settings :=
          { saved with
            mEngineStatus := initial.mEngineStatus
            mCommand := initial.mCommand } } := by
  have saves : saved.savedText = text := by
    simp only [saveToFile, Option.ite_none_right_eq_some,
      Option.some.injEq] at written
    exact written.2
  have loads := loadLines_entries (clean_entries saveable) initial
  rw [← savedText, saves] at loads
  have messages (loaded : SettingsModel) :=
    (assign_numbers loaded saveable.mMaxBufferedMessages).1
  have fatal (loaded : SettingsModel) :=
    (assign_numbers loaded saveable.mMaxFatalRetries).2.1
  have readWrite (loaded : SettingsModel) :=
    (assign_numbers loaded saveable.mMaxReadWriteRetries).2.2.1
  have readTimeOut (loaded : SettingsModel) :=
    (assign_numbers loaded saveable.mReadTimeOutMS).2.2.2.1
  have writeTimeOut (loaded : SettingsModel) :=
    (assign_numbers loaded saveable.mWriteTimeOutMS).2.2.2.2
  rw [loadFromFile, loads]
  simp only [entries, List.foldl_cons, List.foldl_nil, assigned,
    assign_logLevel, assign_xLinkIp, assign_xLinkPort, messages, fatal,
    readWrite, readTimeOut, writeTimeOut]

/-- An address of a quote and a colon, an empty port, and extreme numbers. -/
def unusual : SettingsModel :=
  { mLogLevel := .trace
    mXLinkIp := [quote, colon]
    mXLinkPort := []
    mMaxBufferedMessages := -2147483648
    mMaxFatalRetries := 2147483647
    mEngineStatus := .running }

theorem settings_round_trip_unusual :
    loadFromFile { mXLinkPort := literal "1", mCommand := .stopEngine }
        (.opened unusual.savedText true) =
      { lReturn := true
        settings :=
          { unusual with
            mEngineStatus := .idle
            mCommand := .stopEngine } } :=
  settings_round_trip
    { mXLinkIp := by decide +kernel
      mXLinkPort := by decide +kernel
      mMaxBufferedMessages := by decide
      mMaxFatalRetries := by decide
      mMaxReadWriteRetries := by decide
      mReadTimeOutMS := by decide
      mWriteTimeOutMS := by decide }
    { mXLinkPort := literal "1", mCommand := .stopEngine }
    (rfl : unusual.saveToFile true true = some unusual.savedText)

end SettingsModel

end CWUSB
