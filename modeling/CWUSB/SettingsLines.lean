import CWUSB.SettingsRoundTrip
import Mathlib.Data.List.DropRight

/-!
# Lines which set nothing

Cutting a line into pieces may throw, in front of the try block of
`LoadFromFile` too.  The functions are modelled here with the exceptions they
pass on; none leaves the function.  A line changes a setting whenever its key
is known and what stands behind it can be read, with or without a colon and
quotes around it.
-/

namespace CWUSB

namespace SettingsModel

/-! ## Exceptions -/

inductive LoadException where
  | substr (thrown : StringException)
  | stoi (thrown : DecimalText.ReadException)
deriving DecidableEq

namespace Throwing

/-- The option and the result of a line, cut out in front of the try block. -/
def splitLine (lLine : List UInt8) :
    Except LoadException (List UInt8 × List UInt8) := do
  match lLine.findIdx? (· == colon) with
  | some lUntilDelimiter =>
      let lOption ← (substr lLine 0 lUntilDelimiter).mapError .substr
      let lResult ← (substr lLine (lUntilDelimiter + 1)
        (lLine.length - lUntilDelimiter - 1)).mapError .substr
      return (lOption, lResult)
  | none =>
      -- `npos + 1` is 0, and `size - npos - 1` is the size.
      let lOption ← (substrFrom lLine 0).mapError .substr
      let lResult ← (substr lLine 0 lLine.length).mapError .substr
      return (lOption, lResult)

/-- The value without its outer characters.  The size 1 makes the count wrap,
but then nothing is left at the position. -/
def cutOut (lResult : List UInt8) : Except LoadException (List UInt8) :=
  (substr lResult 1 (lResult.length - 2)).mapError .substr

def readNumber (lResult : List UInt8) : Except LoadException Int := do
  (DecimalText.stoi (← cutOut lResult)).mapError .stoi

/-- The assignments inside of the try block. -/
def assign (settings : SettingsModel) (lOption lResult : List UInt8) :
    Except LoadException SettingsModel :=
  if lOption == cSaveLogLevel then
    (cutOut lResult).map fun value =>
      { settings with
        mLogLevel := Logger.convertLogLevelStringToLevel value }
  else if lOption == cSaveXLinkIp then
    (cutOut lResult).map fun value => { settings with mXLinkIp := value }
  else if lOption == cSaveXLinkPort then
    (cutOut lResult).map fun value => { settings with mXLinkPort := value }
  else if lOption == cSaveMaxBufferedMessages then
    (readNumber lResult).map fun value =>
      { settings with mMaxBufferedMessages := value }
  else if lOption == cSaveMaxFatalRetries then
    (readNumber lResult).map fun value =>
      { settings with mMaxFatalRetries := value }
  else if lOption == cSaveMaxReadWriteRetries then
    (readNumber lResult).map fun value =>
      { settings with mMaxReadWriteRetries := value }
  else if lOption == cSaveReadTimeOutMS then
    (readNumber lResult).map fun value =>
      { settings with mReadTimeOutMS := value }
  else if lOption == cSaveWriteTimeOutMS then
    (readNumber lResult).map fun value =>
      { settings with mWriteTimeOutMS := value }
  else
    .ok settings

/-- The body of the loop; only what the try block throws is caught. -/
def loadLine (settings : SettingsModel) (lLine : List UInt8) :
    Except LoadException SettingsModel := do
  let lLine := lLine.filter fun byte => !DecimalText.isspace byte
  let (lOption, lResult) ← splitLine lLine
  if lResult.isEmpty then return settings
  else
    match assign settings lOption lResult with
    | .ok assigned => return assigned
    | .error _ => return settings

def loadLines (settings : SettingsModel) (lLine : List UInt8) :
    List UInt8 → Except LoadException SettingsModel
  | [] => return settings
  | byte :: text => do
      if byte = newline then loadLines (← loadLine settings lLine) [] text
      else loadLines settings (lLine ++ [byte]) text

def loadFromFile (settings : SettingsModel) :
    InputFile → Except LoadException Loaded
  | .notOpened => return { lReturn := false, settings := settings }
  | .opened text eof => do
      let loaded ← loadLines settings [] text
      return { lReturn := eof, settings := loaded }

/-! ## No exception escapes -/

theorem splitLine_eq (lLine : List UInt8) :
    splitLine lLine = .ok (SettingsModel.splitLine lLine) := by
  unfold splitLine SettingsModel.splitLine
  cases found : lLine.findIdx? (· == colon) with
  | some lUntilDelimiter =>
      have inside : lUntilDelimiter < lLine.length :=
        (List.findIdx?_eq_some_iff_getElem.mp found).1
      have rest : (lLine.drop (lUntilDelimiter + 1)).take
          (lLine.length - lUntilDelimiter - 1) =
            lLine.drop (lUntilDelimiter + 1) := by
        apply List.take_of_length_le
        rw [List.length_drop]
        omega
      simp only [substr, Nat.zero_le, if_true, List.drop_zero,
        Nat.succ_le_of_lt inside, rest]
      rfl
  | none =>
      simp only [substrFrom, substr, Nat.zero_le, if_true, List.drop_zero,
        List.take_length]
      rfl

theorem cutOut_eq {lResult : List UInt8} (nonempty : lResult ≠ []) :
    cutOut lResult = .ok (inner lResult) := by
  have inside : 1 ≤ lResult.length := List.length_pos_iff.mpr nonempty
  rw [cutOut, substr, if_pos inside]
  rfl

theorem assign_eq (settings : SettingsModel) (lOption : List UInt8)
    {lResult : List UInt8} (nonempty : lResult ≠ []) :
    assign settings lOption lResult =
      (settings.assign lOption lResult).mapError .stoi := by
  have cut := cutOut_eq nonempty
  have number : readNumber lResult =
      (DecimalText.stoi (inner lResult)).mapError .stoi := by
    rw [readNumber, cut]
    rfl
  unfold assign SettingsModel.assign
  rw [cut, number]
  -- Both sides test for the same keys, in the same order.
  simp only [apply_ite (Except.mapError LoadException.stoi)]
  cases DecimalText.stoi (inner lResult) with
  | ok value => rfl
  | error thrown => rfl

theorem loadLine_eq (settings : SettingsModel) (lLine : List UInt8) :
    loadLine settings lLine = .ok (settings.loadLine lLine) := by
  simp only [loadLine, SettingsModel.loadLine, splitLine_eq]
  generalize SettingsModel.splitLine
    (lLine.filter fun byte => !DecimalText.isspace byte) = pieces
  obtain ⟨lOption, lResult⟩ := pieces
  simp only [bind, Except.bind]
  cases lResult with
  | nil => rfl
  | cons byte lResult =>
      rw [assign_eq settings lOption (List.cons_ne_nil byte lResult)]
      cases settings.assign lOption (byte :: lResult) with
      | ok assigned => rfl
      | error thrown => rfl

theorem loadLines_eq (settings : SettingsModel) (lLine text : List UInt8) :
    loadLines settings lLine text =
      .ok (settings.loadLines lLine text) := by
  induction text generalizing settings lLine with
  | nil => rfl
  | cons byte text induction =>
      rw [loadLines, SettingsModel.loadLines]
      by_cases ended : byte = newline
      · rw [if_pos ended, if_pos ended, loadLine_eq]
        exact induction (settings.loadLine lLine) []
      · rw [if_neg ended, if_neg ended]
        exact induction settings (lLine ++ [byte])

theorem loadFromFile_eq (settings : SettingsModel) (file : InputFile) :
    loadFromFile settings file = .ok (settings.loadFromFile file) := by
  cases file with
  | notOpened => rfl
  | opened text eof =>
      rw [loadFromFile, loadLines_eq]
      rfl

end Throwing

/-! ## What a line says -/

def cNumericOptions : List (List UInt8) :=
  [cSaveMaxBufferedMessages, cSaveMaxFatalRetries, cSaveMaxReadWriteRetries,
    cSaveReadTimeOutMS, cSaveWriteTimeOutMS]

def cOptions : List (List UInt8) :=
  [cSaveLogLevel, cSaveXLinkIp, cSaveXLinkPort] ++ cNumericOptions

/-- The line after the removal of white space. -/
def stripped (lLine : List UInt8) : List UInt8 :=
  lLine.filter fun byte => !DecimalText.isspace byte

/-- The first colon divides the line; without one the line stands for both
pieces. -/
def Divides (line option result : List UInt8) : Prop :=
  (colon ∉ option ∧ line = option ++ colon :: result) ∨
    (colon ∉ line ∧ option = line ∧ result = line)

/-- A sign, if any, and nothing but digits behind it, within the range of the
type. -/
def IsDecimal (text : List UInt8) : Prop :=
  (DecimalText.readSign text).2 ≠ [] ∧
    (∀ byte ∈ (DecimalText.readSign text).2,
      DecimalText.isdigit byte = true) ∧
    (DecimalText.stoi text).isOk = true

instance (text : List UInt8) : Decidable (IsDecimal text) :=
  inferInstanceAs (Decidable (_ ∧ _ ∧ _))

/-- A known key, a colon, and a value between quotes which fits the key. -/
def WellFormed (line : List UInt8) : Prop :=
  ∃ key value, line = key ++ colon :: (quote :: value ++ [quote]) ∧
    key ∈ cOptions ∧ (key ∈ cNumericOptions → IsDecimal value)

/-- The settings are what the text behind the option says already. -/
def Has (settings : SettingsModel) (option text : List UInt8) : Prop :=
  (option, Logger.convertLogLevelStringToLevel text) =
      (cSaveLogLevel, settings.mLogLevel) ∨
    (option, text) ∈
      [(cSaveXLinkIp, settings.mXLinkIp),
        (cSaveXLinkPort, settings.mXLinkPort)] ∨
    ∃ value, DecimalText.stoi text = .ok value ∧
      (option, value) ∈
        [(cSaveMaxBufferedMessages, settings.mMaxBufferedMessages),
          (cSaveMaxFatalRetries, settings.mMaxFatalRetries),
          (cSaveMaxReadWriteRetries, settings.mMaxReadWriteRetries),
          (cSaveReadTimeOutMS, settings.mReadTimeOutMS),
          (cSaveWriteTimeOutMS, settings.mWriteTimeOutMS)]

/-- Why an option leaves the settings as they are. -/
inductive Ineffective (settings : SettingsModel)
    (option result : List UInt8) : Prop where
  | noValue (empty : result = [])
  | unknown (other : option ∉ cOptions)
  | unreadable (numeric : option ∈ cNumericOptions)
      (fails : ∃ thrown, DecimalText.stoi (inner result) = .error thrown)
  | alreadySet (has : settings.Has option (inner result))

def NoEffect (settings : SettingsModel) (lLine : List UInt8) : Prop :=
  ∃ option result, Divides (stripped lLine) option result ∧
    settings.Ineffective option result

theorem splitLine_of_not_mem {line : List UInt8} (absent : colon ∉ line) :
    splitLine line = (line, line) := by
  have notFound : line.findIdx? (· == colon) = none := by
    rw [List.findIdx?_eq_none_iff]
    intro byte member
    rw [beq_eq_false_iff_ne]
    rintro rfl
    exact absent member
  rw [splitLine, notFound]

theorem splitLine_of_divides {line option result : List UInt8}
    (divides : Divides line option result) :
    splitLine line = (option, result) := by
  rcases divides with ⟨first, rfl⟩ | ⟨absent, rfl, rfl⟩
  · apply splitLine_of_colon
    rintro byte member rfl
    exact first member
  · exact splitLine_of_not_mem absent

theorem divides_splitLine (line : List UInt8) :
    Divides line (splitLine line).1 (splitLine line).2 := by
  by_cases present : colon ∈ line
  · obtain ⟨option, result, rfl, first⟩ :=
      List.eq_append_cons_of_mem present
    have divides : Divides (option ++ colon :: result) option result :=
      .inl ⟨first, rfl⟩
    rw [splitLine_of_divides divides]
    exact divides
  · rw [splitLine_of_not_mem present]
    exact .inr ⟨present, rfl, rfl⟩

theorem noEffect_iff {settings : SettingsModel} {lLine : List UInt8} :
    settings.NoEffect lLine ↔
      settings.Ineffective (splitLine (stripped lLine)).1
        (splitLine (stripped lLine)).2 := by
  constructor
  · rintro ⟨option, result, divides, ineffective⟩
    rw [splitLine_of_divides divides]
    exact ineffective
  · intro ineffective
    exact ⟨_, _, divides_splitLine _, ineffective⟩

/-! ## What an assignment changes -/

/-- The settings after the try block. -/
def caught (settings : SettingsModel)
    (assigned : Except DecimalText.ReadException SettingsModel) :
    SettingsModel :=
  match assigned with
  | .ok assigned => assigned
  | .error _ => settings

section Fields

variable {settings : SettingsModel} (set : β → SettingsModel)
  (get : SettingsModel → β) (gets : ∀ value, get (set value) = value)
  (sets : set (get settings) = settings)

include gets sets

/-- An assignment changes nothing when the value stands in the field. -/
theorem set_eq_self_iff {value : β} :
    set value = settings ↔ value = get settings := by
  constructor
  · intro same
    rw [← same, gets]
  · rintro rfl
    exact sets

theorem caught_map_eq_self_iff
    (read : Except DecimalText.ReadException β) :
    settings.caught (read.map set) = settings ↔
      (∃ thrown, read = .error thrown) ∨ read = .ok (get settings) := by
  cases read with
  | ok value => simp [caught, Except.map, set_eq_self_iff set get gets sets]
  | error thrown => simp [caught, Except.map]

end Fields

/-- The keys are told apart. -/
theorem cOptions_apart :
    cOptions.Pairwise fun first second =>
      ¬ first = second ∧ ¬ second = first := by
  decide +kernel

theorem caught_assign_eq_self_iff (settings : SettingsModel)
    {option result : List UInt8} (known : option ∈ cOptions) :
    settings.caught (settings.assign option result) = settings ↔
      (option ∈ cNumericOptions ∧
        ∃ thrown, DecimalText.stoi (inner result) = .error thrown) ∨
        settings.Has option (inner result) := by
  have apart := cOptions_apart
  simp only [cOptions, cNumericOptions, List.cons_append, List.nil_append,
    List.pairwise_cons, List.mem_cons, List.not_mem_nil, or_false,
    forall_eq_or_imp, forall_eq] at apart known
  obtain ⟨level, ip, port⟩ := settings.assign_texts result
  obtain ⟨messages, fatal, readWrite, readTimeOut, writeTimeOut⟩ :=
    settings.assign_reads result
  rcases known with rfl | rfl | rfl | rfl | rfl | rfl | rfl | rfl
  · rw [level, caught,
      set_eq_self_iff (fun value => { settings with mLogLevel := value })
        mLogLevel (fun _ => rfl) rfl]
    simp [Has, cNumericOptions, apart]
  · rw [ip, caught,
      set_eq_self_iff (fun value => { settings with mXLinkIp := value })
        mXLinkIp (fun _ => rfl) rfl]
    simp [Has, cNumericOptions, apart]
  · rw [port, caught,
      set_eq_self_iff (fun value => { settings with mXLinkPort := value })
        mXLinkPort (fun _ => rfl) rfl]
    simp [Has, cNumericOptions, apart]
  · rw [messages, caught_map_eq_self_iff _ mMaxBufferedMessages
      (fun _ => rfl) rfl]
    simp [Has, cNumericOptions, apart]
  · rw [fatal, caught_map_eq_self_iff _ mMaxFatalRetries
      (fun _ => rfl) rfl]
    simp [Has, cNumericOptions, apart]
  · rw [readWrite, caught_map_eq_self_iff _ mMaxReadWriteRetries
      (fun _ => rfl) rfl]
    simp [Has, cNumericOptions, apart]
  · rw [readTimeOut, caught_map_eq_self_iff _ mReadTimeOutMS
      (fun _ => rfl) rfl]
    simp [Has, cNumericOptions, apart]
  · rw [writeTimeOut, caught_map_eq_self_iff _ mWriteTimeOutMS
      (fun _ => rfl) rfl]
    simp [Has, cNumericOptions, apart]

theorem assign_of_unknown (settings : SettingsModel)
    {option : List UInt8} (other : option ∉ cOptions) (result : List UInt8) :
    settings.assign option result = .ok settings := by
  simp only [cOptions, cNumericOptions, List.cons_append, List.nil_append,
    List.mem_cons, List.not_mem_nil, or_false, not_or] at other
  simp [assign, other]

theorem caught_assign_iff (settings : SettingsModel)
    (option : List UInt8) {result : List UInt8} (nonempty : result ≠ []) :
    settings.caught (settings.assign option result) = settings ↔
      settings.Ineffective option result := by
  by_cases known : option ∈ cOptions
  · rw [caught_assign_eq_self_iff settings known]
    constructor
    · rintro (⟨numeric, fails⟩ | has)
      · exact .unreadable numeric fails
      · exact .alreadySet has
    · intro ineffective
      cases ineffective with
      | noValue empty => exact absurd empty nonempty
      | unknown other => exact absurd known other
      | unreadable numeric fails => exact .inl ⟨numeric, fails⟩
      | alreadySet has => exact .inr has
  · rw [assign_of_unknown settings known]
    constructor
    · intro _
      exact .unknown known
    · intro _
      rfl

theorem loadLine_eq_self_iff (settings : SettingsModel)
    (lLine : List UInt8) :
    settings.loadLine lLine = settings ↔ settings.NoEffect lLine := by
  have loads : settings.loadLine lLine =
      if (splitLine (stripped lLine)).2.isEmpty then settings
      else
        settings.caught (settings.assign (splitLine (stripped lLine)).1
          (splitLine (stripped lLine)).2) := rfl
  rw [noEffect_iff, loads]
  generalize splitLine (stripped lLine) = pieces
  obtain ⟨option, result⟩ := pieces
  cases result with
  | nil =>
      constructor
      · intro _
        exact .noValue rfl
      · intro _
        rfl
  | cons byte result =>
      exact caught_assign_iff settings option (List.cons_ne_nil byte result)

/-- Loading a line never throws, and leaves the settings as they are when its
key is unknown, nothing or no number stands behind it, or the settings say the
same already. -/
theorem line_ignored_iff (settings : SettingsModel) {lLine : List UInt8}
    (oneLine : newline ∉ lLine) :
    Throwing.loadFromFile settings (.opened (lLine ++ [newline]) true) =
        .ok { lReturn := true, settings := settings } ↔
      settings.NoEffect lLine := by
  have noNewline : ∀ byte ∈ lLine, byte ≠ newline := by
    rintro byte member rfl
    exact oneLine member
  have loads : settings.loadLines [] (lLine ++ [newline]) =
      settings.loadLine lLine :=
    loadLines_line noNewline settings [] []
  rw [Throwing.loadFromFile_eq, loadFromFile, loads, ← loadLine_eq_self_iff]
  simp

/-- An option nobody knows, without a colon. -/
theorem line_ignored_unknown :
    Throwing.loadFromFile {} (.opened (literal "Verbose" ++ [newline]) true) =
      .ok { lReturn := true, settings := {} } := by
  rw [line_ignored_iff _ (by decide +kernel), noEffect_iff]
  exact .unknown (by decide +kernel)

theorem colon_not_mem_options :
    ∀ key ∈ cOptions, colon ∉ key := by
  decide +kernel

/-- The pieces of a line decide whether it is well formed. -/
theorem wellFormed_iff {line : List UInt8} :
    WellFormed line ↔
      (splitLine line).1 ++ colon :: (quote ::
          inner (splitLine line).2 ++ [quote]) = line ∧
        (splitLine line).1 ∈ cOptions ∧
          ((splitLine line).1 ∈ cNumericOptions →
            IsDecimal (inner (splitLine line).2)) := by
  constructor
  · rintro ⟨key, value, rfl, known, fits⟩
    have divides : Divides (key ++ colon :: (quote :: value ++ [quote])) key
        (quote :: value ++ [quote]) :=
      .inl ⟨colon_not_mem_options key known, rfl⟩
    rw [splitLine_of_divides divides, inner_quoted]
    exact ⟨rfl, known, fits⟩
  · rintro ⟨same, known, fits⟩
    exact ⟨_, _, same.symm, known, fits⟩

instance (line : List UInt8) : Decidable (WellFormed line) :=
  decidable_of_iff _ wellFormed_iff.symm

/-- A malformed line which changes the default settings. -/
def MalformedChange (lLine : List UInt8) : Prop :=
  newline ∉ lLine ∧ ¬ WellFormed (stripped lLine) ∧
    Throwing.loadFromFile {} (.opened (lLine ++ [newline]) true) ≠
      .ok { lReturn := true, settings := {} }

instance (lLine : List UInt8) : Decidable (MalformedChange lLine) :=
  inferInstanceAs (Decidable (_ ∧ _ ∧ _))

/-- Without colon, without quotes, with a quote which is not closed, and with
something behind a number. -/
theorem malformedLines_change :
    MalformedChange (literal "XLinkIp") ∧
      MalformedChange (literal "XLinkIp:1.2.3.4") ∧
      MalformedChange (literal "MaxBuffer:\"12") ∧
      MalformedChange (literal "MaxBuffer:\"12abc\"") := by
  decide +kernel

/-! ## The last line -/

/-- What stands behind the last newline. -/
def lastLine (text : List UInt8) : List UInt8 :=
  text.rtakeWhile (· ≠ newline)

/-- The text up to its last newline. -/
def wholeLines (text : List UInt8) : List UInt8 :=
  text.rdropWhile (· ≠ newline)

theorem newline_not_mem_lastLine (text : List UInt8) :
    ∀ byte ∈ lastLine text, byte ≠ newline := by
  intro byte member
  simpa using List.mem_rtakeWhile_imp member

/-- Without a newline nothing is loaded. -/
theorem loadLines_of_noNewline {lLine : List UInt8}
    (noNewline : ∀ byte ∈ lLine, byte ≠ newline) (settings : SettingsModel)
    (read : List UInt8) : loadLines settings read lLine = settings := by
  induction lLine generalizing read with
  | nil => rfl
  | cons byte lLine induction =>
      rw [loadLines, if_neg (noNewline byte (by simp))]
      exact induction (fun other member =>
        noNewline other (List.mem_cons_of_mem _ member)) _

theorem loadLines_append_newline (settings : SettingsModel)
    (read text more : List UInt8) :
    loadLines settings read (text ++ newline :: more) =
      loadLines (loadLines settings read (text ++ [newline])) [] more := by
  induction text generalizing settings read with
  | nil => simp [loadLines]
  | cons byte text induction =>
      rw [List.cons_append, List.cons_append, loadLines, loadLines]
      by_cases ended : byte = newline
      · rw [if_pos ended, if_pos ended]
        exact induction _ _
      · rw [if_neg ended, if_neg ended]
        exact induction _ _

/-- What follows whole lines is loaded behind them. -/
theorem loadLines_wholeLines_append (settings : SettingsModel)
    (text more : List UInt8) :
    loadLines settings [] (wholeLines text ++ more) =
      loadLines (loadLines settings [] (wholeLines text)) [] more := by
  rcases List.eq_nil_or_concat' (wholeLines text) with
    none | ⟨before, last, ends⟩
  · rw [none]
    rfl
  · have isNewline : last = newline := by
      have nonempty : wholeLines text ≠ [] := by simp [ends]
      have kept := List.rdropWhile_last_not (· ≠ newline) text nonempty
      change ¬ decide ((wholeLines text).getLast nonempty ≠ newline) at kept
      simpa [ends] using kept
    rw [ends, isNewline, List.append_assoc, List.singleton_append,
      loadLines_append_newline]

theorem wholeLines_append_lastLine (text : List UInt8) :
    wholeLines text ++ lastLine text = text :=
  List.rdropWhile_append_rtakeWhile

/-- A last line without its end is not loaded. -/
theorem loadLines_wholeLines (settings : SettingsModel) (text : List UInt8) :
    loadLines settings [] text = loadLines settings [] (wholeLines text) := by
  calc loadLines settings [] text
      = loadLines settings [] (wholeLines text ++ lastLine text) := by
        rw [wholeLines_append_lastLine]
    _ = loadLines (loadLines settings [] (wholeLines text)) []
          (lastLine text) :=
        loadLines_wholeLines_append settings text (lastLine text)
    _ = loadLines settings [] (wholeLines text) :=
        loadLines_of_noNewline (newline_not_mem_lastLine text) _ _

/-- With its end it is loaded behind the others. -/
theorem loadLines_ended (settings : SettingsModel) (text : List UInt8) :
    loadLines settings [] (text ++ [newline]) =
      (loadLines settings [] (wholeLines text)).loadLine (lastLine text) := by
  calc loadLines settings [] (text ++ [newline])
      = loadLines settings []
          (wholeLines text ++ (lastLine text ++ [newline])) := by
        rw [← List.append_assoc, wholeLines_append_lastLine]
    _ = loadLines (loadLines settings [] (wholeLines text)) []
          (lastLine text ++ [newline]) :=
        loadLines_wholeLines_append settings text _
    _ = (loadLines settings [] (wholeLines text)).loadLine
          (lastLine text) :=
        loadLines_line (newline_not_mem_lastLine text) _ [] []

/-- A text and the text with a newline behind it load alike when the last line
has no effect on the settings the lines before it give. -/
theorem last_line_counts_iff (settings : SettingsModel)
    (text : List UInt8) :
    settings.loadFromFile (.opened text true) =
        settings.loadFromFile (.opened (text ++ [newline]) true) ↔
      (settings.loadFromFile
        (.opened (wholeLines text) true)).settings.NoEffect
          (lastLine text) := by
  simp only [loadFromFile, loadLines_ended, loadLines_wholeLines settings text,
    Loaded.mk.injEq, true_and]
  rw [← loadLine_eq_self_iff, eq_comm]

/-- The only option of the file is not loaded. -/
theorem last_line_lost :
    let text := literal "XLinkIp: \"10.0.0.1\""
    text ≠ [] ∧ newline ∉ text ∧
      loadFromFile {} (.opened text true) =
        { lReturn := true, settings := {} } ∧
      loadFromFile {} (.opened (text ++ [newline]) true) =
        { lReturn := true, settings := { mXLinkIp := literal "10.0.0.1" } } ∧
      loadFromFile {} (.opened text true) ≠
        loadFromFile {} (.opened (text ++ [newline]) true) := by
  decide +kernel

end SettingsModel

end CWUSB
