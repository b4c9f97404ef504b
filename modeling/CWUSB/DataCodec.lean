import CWUSB.DatagramSafety

/-!
# The codec of ethernet data

`ReceiveCallback` cuts a message at its first separator, and then again with
the length of the string it expects.  On every message it returns from, this
comes down to which string the message starts with, and ethernet data is what
follows `e;e;`, whatever its bytes.
-/

namespace CWUSB

theorem take_eq_iff_prefix {word text : List UInt8} :
    text.take word.length = word ↔ word <+: text := by
  rw [List.prefix_iff_eq_take, eq_comm]

theorem length_of_substrFrom {text rest : List UInt8} {position : Nat}
    (within : substrFrom text position = .ok rest) :
    position ≤ text.length := by
  by_contra behind
  rw [substrFrom, substr_error _ (by omega)] at within
  cases within

namespace XLinkKaiConnection

/-- The reaction to a message, by what it starts with. -/
def reactionTo (mIncomingConnection : Bool) (lData : List UInt8) :
    Reaction :=
  if cKeepAliveString <+: lData then .keepAlive
  else if cEthernetDataString <+: lData then
    if mIncomingConnection then
      .ethernetData (lData.drop cEthernetDataString.length)
    else .nothing
  else if cDisconnectedString <+: lData then .disconnected
  else .nothing

section React

variable {mIncomingConnection : Bool} {lCommand lData : List UInt8}
  {reaction : Reaction}

/-- Behind `e;` the first four bytes decide. -/
theorem react_ethernetData
    (ethernet : lCommand = cEthernetDataFormat ++ cSeparator)
    (reacts : react mIncomingConnection lCommand lData = .ok reaction) :
    reaction =
      if cEthernetDataString <+: lData then
        if mIncomingConnection then
          .ethernetData (lData.drop cEthernetDataString.length)
        else .nothing
      else .nothing := by
  have notKeepAlive : ¬ (lCommand == cKeepAliveString) = true := by
    rw [ethernet]
    decide
  have isEthernet :
      (lCommand == cEthernetDataFormat ++ cSeparator) = true := by
    simp [ethernet]
  unfold react at reacts
  rw [if_neg notKeepAlive, if_pos isEthernet, substr_zero] at reacts
  dsimp only [bind, Except.bind] at reacts
  split at reacts
  · cases reacts
  · next logged within =>
      have long := length_of_substrFrom within
      simp only [beq_iff_eq, take_eq_iff_prefix] at reacts
      by_cases data : cEthernetDataString <+: lData
      · rw [if_pos data, substr_ok _ long] at reacts
        rw [if_pos data]
        cases mIncomingConnection with
        | false => exact (Except.ok.inj reacts).symm
        | true =>
            have all : (lData.drop cEthernetDataString.length).take
                (lData.length - cEthernetDataString.length) =
                  lData.drop cEthernetDataString.length :=
              List.take_of_length_le (Nat.le_of_eq List.length_drop)
            rw [← all]
            exact (Except.ok.inj reacts).symm
      · rw [if_neg data] at reacts ⊢
        split at reacts
        · split at reacts
          · cases reacts
          · split at reacts
            · split at reacts
              · cases reacts
              · exact (Except.ok.inj reacts).symm
            · exact (Except.ok.inj reacts).symm
        · exact (Except.ok.inj reacts).symm

/-- The first command decides like the whole message. -/
theorem react_eq_reactionTo
    (first : lCommand = lData.take (behindFirstSeparator lData))
    (reacts : react mIncomingConnection lCommand lData = .ok reaction) :
    reaction = reactionTo mIncomingConnection lData := by
  have starts (word : List UInt8)
      (noSeparator : ∀ byte ∈ word, [byte] ≠ cSeparator) :
      lCommand = word ++ cSeparator ↔ word ++ cSeparator <+: lData := by
    rw [first]
    exact take_behindFirstSeparator lData noSeparator
  have keepAliveStarts : lCommand = cKeepAliveString ↔
      cKeepAliveString <+: lData :=
    starts cKeepAliveFormat (by decide +kernel)
  have ethernetStarts := starts cEthernetDataFormat format_noSeparator
  have disconnectedStarts :=
    starts cDisconnectedFormat (by decide +kernel)
  have asEthernet (isPrefix : cEthernetDataString <+: lData) :
      lCommand = cEthernetDataFormat ++ cSeparator := by
    apply ethernetStarts.mpr
    exact List.IsPrefix.trans (by decide) isPrefix
  have asDisconnected (isPrefix : cDisconnectedString <+: lData) :
      lCommand = cDisconnectedFormat ++ cSeparator := by
    apply disconnectedStarts.mpr
    exact List.IsPrefix.trans (by decide) isPrefix
  unfold reactionTo
  by_cases keepAlive : lCommand = cKeepAliveString
  · rw [if_pos (keepAliveStarts.mp keepAlive)]
    unfold react at reacts
    rw [if_pos (by simp [keepAlive])] at reacts
    exact (Except.ok.inj reacts).symm
  · rw [if_neg (keepAliveStarts.not.mp keepAlive)]
    by_cases ethernet : lCommand = cEthernetDataFormat ++ cSeparator
    · have connected : ¬ cDisconnectedString <+: lData := by
        intro isPrefix
        cases ethernet.symm.trans (asDisconnected isPrefix)
      rw [if_neg connected]
      exact react_ethernetData ethernet reacts
    · rw [if_neg (mt asEthernet ethernet)]
      unfold react at reacts
      rw [if_neg (by simpa using keepAlive), if_neg (by simpa using ethernet),
        substr_zero] at reacts
      dsimp only [bind, Except.bind] at reacts
      simp only [beq_iff_eq, take_eq_iff_prefix] at reacts
      by_cases disconnected : cDisconnectedString <+: lData
      · rw [if_pos (asDisconnected disconnected), if_pos disconnected]
          at reacts
        rw [if_pos disconnected]
        exact (Except.ok.inj reacts).symm
      · rw [if_neg disconnected] at reacts ⊢
        split at reacts <;> exact (Except.ok.inj reacts).symm

/-- No message starts like two kinds of messages. -/
theorem reactionTo_ethernetData (data : cEthernetDataString <+: lData) :
    reactionTo true lData =
      .ethernetData (lData.drop cEthernetDataString.length) := by
  have notKeepAlive : ¬ cKeepAliveString <+: lData := by
    intro keepAlive
    have both := List.prefix_of_prefix_length_le data keepAlive (by decide)
    revert both
    decide
  rw [reactionTo, if_neg notKeepAlive, if_pos data, if_pos rfl]

/-- A confirmation is not a message of another kind. -/
theorem react_confirmation (mIncomingConnection : Bool)
    (lData : List UInt8) :
    react mIncomingConnection cConnectedString lData = .ok .nothing := by
  unfold react
  rw [if_neg (by decide), if_neg (by decide), if_neg (by decide)]
  rfl

/-- What is handed over is what follows `e;e;`. -/
theorem act_forwarded (connection : XLinkKaiConnection) (fails : Bool)
    (lData : List UInt8) :
    (connection.act fails (reactionTo mIncomingConnection lData)).forwarded =
      if mIncomingConnection = true ∧ cEthernetDataString <+: lData then
        some (lData.drop cEthernetDataString.length)
      else none := by
  by_cases data : cEthernetDataString <+: lData
  · cases mIncomingConnection with
    | true => simp [reactionTo_ethernetData data, act, data]
    | false =>
        unfold reactionTo
        rw [if_pos data]
        split <;> rfl
  · have nothing :
        ¬ (mIncomingConnection = true ∧ cEthernetDataString <+: lData) :=
      fun both => data both.2
    rw [reactionTo, if_neg data, if_neg nothing]
    split
    · rfl
    · split <;> rfl

end React

/-! ## The callback -/

section Callback

variable {connection : XLinkKaiConnection} {datagram : List UInt8}
  {now : Int} {fails : Bool} {received : Received}

/-- An empty datagram is only received. -/
theorem receiveCallback_empty (connection : XLinkKaiConnection) (now : Int)
    (fails : Bool) :
    (connection.receive []).receiveCallback 0 now fails =
      .ok { connection := connection.receive [] } := by
  have empty : (connection.receive []).mData.slice 0 0 = [] :=
    slice_receive connection (Nat.zero_le cMaxLength)
  unfold receiveCallback
  rw [empty]
  rfl

/-- On a connection that is up, a callback which returns has reacted to what
the datagram starts with. -/
theorem receiveCallback_connected (connected : connection.mConnected = true)
    (nonempty : 0 < datagram.length) (fits : datagram.length ≤ cMaxLength)
    (returns : (connection.receive datagram).receiveCallback datagram.length
      now fails = .ok received) :
    received = ((connection.receive datagram).tickle now).act fails
      (reactionTo connection.mIncomingConnection datagram) := by
  obtain ⟨confirmation, tested, unchanged, _⟩ :=
    testConfirmation_ok connection.mConnected datagram
  obtain ⟨first, notConfirmed⟩ := unchanged connected
  rw [receiveCallback_eq nonempty fits tested, notConfirmed,
    if_neg (by simp), if_pos connected, dispatch] at returns
  have still :
      ((connection.receive datagram).tickle now).mIncomingConnection =
        connection.mIncomingConnection := rfl
  rw [still] at returns
  cases reacts : react connection.mIncomingConnection confirmation.lCommand
      datagram with
  | error exception => simp [reacts, Except.map] at returns
  | ok reaction =>
      rw [← react_eq_reactionTo first reacts]
      rw [reacts] at returns
      exact (Except.ok.inj returns).symm

/-- Otherwise it may have been confirmed. -/
theorem receiveCallback_unconnected
    (unconnected : connection.mConnected = false)
    (nonempty : 0 < datagram.length) (fits : datagram.length ≤ cMaxLength)
    (returns : (connection.receive datagram).receiveCallback datagram.length
      now fails = .ok received) :
    received =
        { connection := (connection.receive datagram).tickle now } ∨
      received =
        { connection :=
            ((connection.receive datagram).tickle now).confirm } := by
  obtain ⟨confirmation, tested, _, confirms⟩ :=
    testConfirmation_ok connection.mConnected datagram
  rw [receiveCallback_eq nonempty fits tested] at returns
  split at returns
  · next confirmed =>
      rw [(confirms confirmed).1, dispatch, react_confirmation] at returns
      exact .inr (Except.ok.inj returns).symm
  · rw [unconnected, if_neg (by simp)] at returns
    exact .inl (Except.ok.inj returns).symm

/-- Only a connection that is up hands anything over. -/
theorem receiveCallback_forwarded (fits : datagram.length ≤ cMaxLength)
    (returns : (connection.receive datagram).receiveCallback datagram.length
      now fails = .ok received) :
    received.forwarded =
      if connection.mConnected = true ∧
          connection.mIncomingConnection = true ∧
          cEthernetDataString <+: datagram
        then some (datagram.drop cEthernetDataString.length) else none := by
  cases datagram with
  | nil =>
      rw [List.length_nil, receiveCallback_empty] at returns
      have noData : ¬ cEthernetDataString <+: [] := by decide
      rw [← Except.ok.inj returns, if_neg fun all => noData all.2.2]
  | cons byte rest =>
      cases connected : connection.mConnected with
      | true =>
          rw [receiveCallback_connected connected (by simp) fits returns,
            act_forwarded]
          exact if_congr (by simp) rfl rfl
      | false =>
          rw [if_neg (by simp)]
          rcases receiveCallback_unconnected connected (by simp) fits returns
            with rfl | rfl <;> rfl

/-- `Send` of a payload builds one datagram. -/
theorem send_transmitted {sender : XLinkKaiConnection}
    (isOpen : sender.mSocketOpen = true) (connected : sender.mConnected = true)
    (aCommand aData : List UInt8) :
    (sender.send aCommand aData false).transmitted =
      some (aCommand ++ aData) := by
  simp [send, isOpen, connected]

/-- The callback returns on every payload, and is up as before. -/
theorem receiveCallback_ethernetData {receiver : XLinkKaiConnection}
    {payload : List UInt8} (connected : receiver.mConnected = true)
    (incoming : receiver.mIncomingConnection = true)
    (fits : payload.length ≤ 4092) (now : Int) (fails : Bool) :
    ∃ received,
      (receiver.receive (cEthernetDataString ++ payload)).receiveCallback
          (cEthernetDataString ++ payload).length now fails = .ok received ∧
        received.forwarded = some payload ∧
        received.connection.mConnected = receiver.mConnected ∧
        received.connection.mConnectInitiated =
          receiver.mConnectInitiated := by
  have dataLength : cEthernetDataString.length = 4 := rfl
  have within : (cEthernetDataString ++ payload).length ≤ cMaxLength := by
    rw [List.length_append, dataLength]
    exact Nat.add_le_add_left fits 4
  have nonempty : 0 < (cEthernetDataString ++ payload).length := by
    rw [List.length_append, dataLength]
    omega
  have whole : ¬ Truncated (cEthernetDataString ++ payload) := by
    rintro (⟨_, short⟩ | same)
    · rw [List.length_append] at short
      omega
    · cases (List.append_inj same rfl).1
  have data : cEthernetDataString <+: cEthernetDataString ++ payload :=
    List.prefix_append _ _
  obtain ⟨received, returns⟩ :=
    (receiveCallback_ok_iff nonempty within now fails).mpr
      fun both => whole both.2
  have reacted := receiveCallback_connected connected nonempty within returns
  rw [incoming, reactionTo_ethernetData data, List.drop_left] at reacted
  subst reacted
  exact ⟨_, returns, rfl, rfl, rfl⟩

end Callback

/-- Exactly what follows `e;e;` is handed over, and `Send` puts a payload of
any bytes there. -/
theorem data_codec {receiver : XLinkKaiConnection}
    (connected : receiver.mConnected = true)
    (incoming : receiver.mIncomingConnection = true) :
    (∀ (datagram : List UInt8) (now : Int) (fails : Bool)
        (received : Received), datagram.length ≤ cMaxLength →
      (receiver.receive datagram).receiveCallback datagram.length now fails =
          .ok received →
        received.forwarded =
          if cEthernetDataString <+: datagram then
            some (datagram.drop cEthernetDataString.length)
          else none) ∧
      ∀ (payload : List UInt8) (sender : XLinkKaiConnection) (now : Int)
          (fails : Bool), payload.length ≤ 4092 →
        sender.mSocketOpen = true → sender.mConnected = true →
          ∃ datagram received,
            (sender.send cEthernetDataString payload false).transmitted =
                some datagram ∧
              (receiver.receive datagram).receiveCallback datagram.length now
                  fails = .ok received ∧
              received.forwarded = some payload ∧
              received.connection.mConnected = receiver.mConnected ∧
              received.connection.mConnectInitiated =
                receiver.mConnectInitiated := by
  constructor
  · intro datagram now fails received fits returns
    rw [receiveCallback_forwarded fits returns, connected, incoming]
    exact if_congr (by simp) rfl rfl
  · intro payload sender now fails fits isOpen senderConnected
    obtain ⟨received, returns, outcome⟩ :=
      receiveCallback_ethernetData connected incoming fits now fails
    exact ⟨_, received,
      send_transmitted isOpen senderConnected cEthernetDataString payload,
      returns, outcome⟩

/-- A payload may look like messages itself. -/
theorem data_codec_nested :
    ∃ datagram received,
      (({ mConnected := true, mSocketOpen := true } :
            XLinkKaiConnection).send cEthernetDataString
          (literal "e;e;e;d;" ++ [0]) false).transmitted = some datagram ∧
        (({ mConnected := true, mIncomingConnection := true } :
            XLinkKaiConnection).receive datagram).receiveCallback
          datagram.length 0 false = .ok received ∧
        received.forwarded = some (literal "e;e;e;d;" ++ [0]) ∧
        received.connection.mConnected = true ∧
        received.connection.mConnectInitiated = false :=
  (data_codec rfl rfl).2 (literal "e;e;e;d;" ++ [0])
    { mConnected := true, mSocketOpen := true } 0 false (by decide) rfl rfl

end XLinkKaiConnection

end CWUSB
