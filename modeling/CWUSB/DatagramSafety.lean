import CWUSB.XLinkKaiConnection

/-!
# Which datagrams make `ReceiveCallback` throw

Two slices are taken only for the log, at positions no test has established:
behind `e;e;` of a message that only starts with `e;`, and behind
`e;d;setessid;` of a message that ends before the last separator.  While
connected, exactly the datagrams which are too short for them throw.
-/

namespace CWUSB

theorem substr_ok {text : List UInt8} {position : Nat} (count : Nat)
    (within : position ≤ text.length) :
    substr text position count = .ok ((text.drop position).take count) :=
  if_pos within

theorem substr_error {text : List UInt8} {position : Nat} (count : Nat)
    (behind : text.length < position) :
    substr text position count = .error .outOfRange :=
  if_neg (by omega)

theorem substr_zero (text : List UInt8) (count : Nat) :
    substr text 0 count = .ok (text.take count) := by
  rw [substr_ok count (Nat.zero_le _), List.drop_zero]

theorem substrFrom_ok {text : List UInt8} {position : Nat}
    (within : position ≤ text.length) :
    ∃ rest, substrFrom text position = .ok rest :=
  ⟨_, substr_ok _ within⟩

/-- The part up to the first separator is a given word exactly when the text
starts with the word and a separator. -/
theorem take_behindFirstSeparator (text : List UInt8) {word : List UInt8}
    (noSeparator : ∀ byte ∈ word, [byte] ≠ cSeparator) :
    text.take (behindFirstSeparator text) = word ++ cSeparator ↔
      word ++ cSeparator <+: text := by
  constructor
  · intro same
    rw [← same]
    exact List.take_prefix _ _
  · rintro ⟨rest, rfl⟩
    have absent :
        word.findIdx? (fun byte => [byte] == cSeparator) = none := by
      rw [List.findIdx?_eq_none_iff]
      intro byte member
      simpa using noSeparator byte member
    have found : behindFirstSeparator (word ++ cSeparator ++ rest) =
        (word ++ cSeparator).length := by
      rw [behindFirstSeparator, List.append_assoc, List.findIdx?_append,
        absent]
      simp [cSeparator, literal, List.findIdx?_cons]
    rw [found, List.take_left]

theorem format_noSeparator :
    ∀ byte ∈ cEthernetDataFormat, [byte] ≠ cSeparator := by
  simp [cEthernetDataFormat, cSeparator, literal]

/-- A datagram that starts like ethernet data but ends before the position
one of the log slices starts at. -/
def Truncated (lData : List UInt8) : Prop :=
  (cEthernetDataFormat ++ cSeparator <+: lData ∧
      lData.length < cEthernetDataString.length) ∨
    lData = cEthernetDataMetaString ++ cSetESSIDFormat

instance (lData : List UInt8) : Decidable (Truncated lData) :=
  inferInstanceAs (Decidable (_ ∨ _))

namespace XLinkKaiConnection

section React

variable {mIncomingConnection : Bool} {lCommand lData : List UInt8}

/-- Messages which do not start like ethernet data are sliced at 0 only. -/
theorem react_other
    (other : lCommand ≠ cEthernetDataFormat ++ cSeparator) :
    ∃ reaction, react mIncomingConnection lCommand lData = .ok reaction := by
  unfold react
  split
  · exact ⟨_, rfl⟩
  · split
    · next same => simp [other] at same
    · split
      · rw [substr_zero]
        dsimp only [bind, Except.bind]
        split <;> exact ⟨_, rfl⟩
      · exact ⟨_, rfl⟩

/-- What decides whether the slices of an ethernet message are in range. -/
theorem react_ethernet
    (ethernet : lCommand = cEthernetDataFormat ++ cSeparator) :
    (∃ reaction, react mIncomingConnection lCommand lData = .ok reaction) ↔
      4 ≤ lData.length ∧
        ¬ (lData.take 4 = cEthernetDataMetaString ∧
          (lData.drop 4).take 8 = cSetESSIDFormat ∧ lData.length < 13) := by
  have dataLength : cEthernetDataString.length = 4 := rfl
  have metaLength : cEthernetDataMetaString.length = 4 := rfl
  have formatLength : cSetESSIDFormat.length = 8 := rfl
  have essidLength : cSetESSIDString.length = 13 := rfl
  have notKeepAlive : ¬ (lCommand == cKeepAliveString) = true := by
    rw [ethernet]
    decide
  have isEthernet :
      (lCommand == cEthernetDataFormat ++ cSeparator) = true := by
    simp [ethernet]
  unfold react
  rw [if_neg notKeepAlive, if_pos isEthernet, substr_zero, dataLength,
    metaLength, formatLength, essidLength]
  dsimp only [bind, Except.bind]
  by_cases long : 4 ≤ lData.length
  · obtain ⟨_, logged⟩ := substrFrom_ok long
    rw [logged, substr_ok _ long, substr_ok _ long]
    dsimp only
    by_cases data : lData.take 4 = cEthernetDataString
    · have notMeta : lData.take 4 ≠ cEthernetDataMetaString := by
        rw [data]
        decide
      rw [if_pos (by simp [data])]
      split <;> simp [long, notMeta, pure, Except.pure]
    · rw [if_neg (by simpa using data)]
      by_cases metaData : lData.take 4 = cEthernetDataMetaString
      · rw [if_pos (by simp [metaData])]
        by_cases format : (lData.drop 4).take 8 = cSetESSIDFormat
        · rw [if_pos (by simp [format])]
          by_cases whole : 13 ≤ lData.length
          · obtain ⟨_, logged⟩ := substrFrom_ok whole
            rw [logged]
            simp [long, whole, pure, Except.pure]
          · rw [substrFrom, substr_error _ (by omega)]
            simp [metaData, format]
            omega
        · rw [if_neg (by simpa using format)]
          simp [long, format, pure, Except.pure]
      · rw [if_neg (by simpa using metaData)]
        simp [long, metaData, pure, Except.pure]
  · rw [substrFrom, substr_error _ (by omega)]
    simp [long]

/-- A message which ends before the last separator of `e;d;setessid;`. -/
private theorem endsAtFormat :
    (lData.take 4 = cEthernetDataMetaString ∧
        (lData.drop 4).take 8 = cSetESSIDFormat ∧ lData.length < 13) ↔
      lData = cEthernetDataMetaString ++ cSetESSIDFormat := by
  constructor
  · rintro ⟨metaData, format, short⟩
    have all : (lData.drop 4).take 8 = lData.drop 4 := by
      apply List.take_of_length_le
      rw [List.length_drop]
      omega
    rw [← metaData, ← format, all, List.take_append_drop]
  · rintro rfl
    decide

/-- The reaction to the first command of a datagram throws exactly when the
datagram is truncated. -/
theorem react_iff
    (first : lCommand = lData.take (behindFirstSeparator lData)) :
    (∃ reaction, react mIncomingConnection lCommand lData = .ok reaction) ↔
      ¬ Truncated lData := by
  have starts := take_behindFirstSeparator lData format_noSeparator
  rw [← first] at starts
  by_cases ethernet : lCommand = cEthernetDataFormat ++ cSeparator
  · have isPrefix := starts.mp ethernet
    rw [react_ethernet ethernet, endsAtFormat, Truncated]
    simp only [isPrefix, true_and, not_or, Nat.not_lt]
    rfl
  · have notPrefix : ¬ cEthernetDataFormat ++ cSeparator <+: lData :=
      fun isPrefix => ethernet (starts.mpr isPrefix)
    have notTruncated : ¬ Truncated lData := by
      rintro (⟨isPrefix, _⟩ | rfl)
      · exact notPrefix isPrefix
      · exact notPrefix (by decide)
    simp only [notTruncated, not_false_eq_true, iff_true]
    exact react_other ethernet

end React

/-! ## The callback -/

/-- While connected the test leaves the first command alone, and a
confirmation replaces it. -/
theorem testConfirmation_ok (mConnected : Bool) (lData : List UInt8) :
    ∃ confirmation, testConfirmation mConnected lData = .ok confirmation ∧
      (mConnected = true →
        confirmation.lCommand = lData.take (behindFirstSeparator lData) ∧
          confirmation.confirmed = false) ∧
      (confirmation.confirmed = true →
        confirmation.lCommand = cConnectedString ∧
          cConnectedString <+: lData) := by
  unfold testConfirmation
  simp only [substr_zero]
  dsimp only [bind, Except.bind]
  split
  · next test =>
      refine ⟨_, rfl, ?_, ?_⟩
      · rintro rfl
        simp at test
      · intro same
        have head : lData.take cConnectedString.length = cConnectedString := by
          simpa using same
        refine ⟨head, ?_⟩
        rw [← head]
        exact List.take_prefix _ _
  · exact ⟨_, rfl, fun _ => ⟨rfl, rfl⟩, fun same => by simp at same⟩

theorem slice_receive (connection : XLinkKaiConnection)
    {datagram : List UInt8} (fits : datagram.length ≤ cMaxLength) :
    (connection.receive datagram).mData.slice 0 datagram.length =
      datagram :=
  FixedArray.slice_overwrite_zero fits

theorem dispatch_ok_iff {connection : XLinkKaiConnection}
    {lCommand lData : List UInt8} (fails : Bool) :
    (∃ received, connection.dispatch lCommand lData fails = .ok received) ↔
      ∃ reaction,
        react connection.mIncomingConnection lCommand lData =
          .ok reaction := by
  unfold dispatch
  cases react connection.mIncomingConnection lCommand lData with
  | error exception => simp [Except.map]
  | ok reaction => simp [Except.map]

/-- The callback is the confirmation test and, on a connection that is up or
just confirmed, the reaction. -/
theorem receiveCallback_eq {connection : XLinkKaiConnection}
    {datagram : List UInt8} {confirmation : Confirmation}
    (nonempty : 0 < datagram.length) (fits : datagram.length ≤ cMaxLength)
    (tested : testConfirmation connection.mConnected datagram =
      .ok confirmation) (now : Int) (fails : Bool) :
    (connection.receive datagram).receiveCallback datagram.length now
        fails =
      if confirmation.confirmed then
        ((connection.receive datagram).tickle now).confirm.dispatch
          confirmation.lCommand datagram fails
      else if connection.mConnected then
        ((connection.receive datagram).tickle now).dispatch
          confirmation.lCommand datagram fails
      else .ok { connection := (connection.receive datagram).tickle now } := by
  have notEmpty : datagram.isEmpty = false := by
    simpa using List.ne_nil_of_length_pos nonempty
  have still : ((connection.receive datagram).tickle now).mConnected =
      connection.mConnected := rfl
  unfold receiveCallback
  dsimp only
  rw [slice_receive connection fits, notEmpty, if_neg (by simp), still,
    tested]
  dsimp only [bind, Except.bind]
  cases confirmation.confirmed with
  | true => rfl
  | false => simp only [Bool.false_eq_true, if_false, still]; rfl

/-- Handling a datagram throws exactly when it is truncated and the
connection is up. -/
theorem receiveCallback_ok_iff {connection : XLinkKaiConnection}
    {datagram : List UInt8} (nonempty : 0 < datagram.length)
    (fits : datagram.length ≤ cMaxLength) (now : Int) (fails : Bool) :
    (∃ received, (connection.receive datagram).receiveCallback
        datagram.length now fails = .ok received) ↔
      ¬ (connection.mConnected = true ∧ Truncated datagram) := by
  obtain ⟨confirmation, tested, unchanged, confirms⟩ :=
    testConfirmation_ok connection.mConnected datagram
  rw [receiveCallback_eq nonempty fits tested]
  cases confirmed : confirmation.confirmed with
  | true =>
      have notConnected : connection.mConnected = false := by
        by_contra connected
        have not := (unchanged (by simpa using connected)).2
        simp [confirmed] at not
      have other :
          confirmation.lCommand ≠ cEthernetDataFormat ++ cSeparator := by
        rw [(confirms confirmed).1]
        decide
      simp only [if_true, notConnected, Bool.false_eq_true, false_and,
        not_false_eq_true, iff_true]
      exact (dispatch_ok_iff fails).mpr (react_other other)
  | false =>
      cases connected : connection.mConnected with
      | true =>
          have first := (unchanged connected).1
          rw [if_neg (by simp), if_pos rfl, dispatch_ok_iff,
            react_iff first]
          simp
      | false => simp

theorem receiveCallback_ok_ethernet :
    (∃ received, (({ mConnected := true } : XLinkKaiConnection).receive
        (literal "e;e;data")).receiveCallback
          (literal "e;e;data").length 0 false = .ok received) ↔
      ¬ (({ mConnected := true } : XLinkKaiConnection).mConnected = true ∧
        Truncated (literal "e;e;data")) :=
  receiveCallback_ok_iff (by decide) (by decide) 0 false

/-- While connected, the two bytes `e;` end the receiver thread. -/
theorem receiveCallback_throws :
    (({ mConnected := true } : XLinkKaiConnection).receive
        (literal "e;")).receiveCallback (literal "e;").length 0 false =
      .error .outOfRange := by
  decide +kernel

end XLinkKaiConnection

end CWUSB
