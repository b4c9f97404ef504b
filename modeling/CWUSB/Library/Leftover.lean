import CWUSB.Library.Stitching

/-!
# Messages beyond the limit

A bounded reassembler drops what it holds once it passes the limit, and takes
the next piece for the start of a message.  Of a message too long for it the
part behind the last drop is left over, and released as if it were a message
of its own.  The length of the message alone decides whether there is such a
part.
-/

namespace Stitching

variable {α : Type u}

/-- How many bytes of a cut are taken in from one drop to the next: as many
full pieces as fit, and the one which passes the limit. -/
def dropPeriod (limit width : Nat) : Nat := (limit / width + 1) * width

/-- What is completed of a message beyond the limit: the part behind the last
drop, unless that part is empty or passes the limit itself.  The padding is
what the pieces already held miss of the full width. -/
def leftover (limit width padding : Nat) (held message : List α) :
    List (List α) :=
  let rest :=
    (held.length + padding + message.length) % dropPeriod limit width
  if 0 < rest ∧ rest ≤ limit then [message.drop (message.length - rest)]
  else []

/-- What a cut message completes behind the bytes held. -/
def completed (limit width padding : Nat) (held message : List α) :
    List (List α) :=
  if held.length + message.length ≤ limit then [held ++ message]
  else leftover limit width padding held message

variable {limit width padding count : Nat} {held message : List α}

theorem limit_lt_dropPeriod (positive : 0 < width) :
    limit < dropPeriod limit width :=
  Nat.lt_mul_of_div_lt (Nat.lt_succ_self _) positive

/-- A message which ends before anything is dropped, or with the piece that
is dropped, leaves nothing over. -/
theorem leftover_eq_nil (beyond : limit < held.length + message.length)
    (within : held.length + padding + message.length ≤
      dropPeriod limit width) :
    leftover limit width padding held message = [] := by
  unfold leftover
  apply if_neg
  rcases Nat.lt_or_eq_of_le within with below | exact
  · rw [Nat.mod_eq_of_lt below]
    omega
  · rw [exact, Nat.mod_self]
    omega

/-- Of a message within the limit everything is left over when nothing of it
was held. -/
theorem leftover_within (positive : 0 < width) (nonempty : 0 < message.length)
    (short : message.length ≤ limit) :
    leftover limit width 0 [] message = [message] := by
  have below : message.length < dropPeriod limit width :=
    short.trans_lt (limit_lt_dropPeriod positive)
  simp [leftover, Nat.mod_eq_of_lt below, nonempty, short]

/-- Before the first drop it makes no difference how much of the message is
held already. -/
theorem completed_take {taken : Nat} (part : taken ≤ message.length)
    (before : held.length + padding + taken ≤ dropPeriod limit width) :
    completed limit width padding (held ++ message.take taken)
        (message.drop taken) =
      completed limit width padding held message := by
  have length : (message.take taken).length = taken := by
    rw [List.length_take]
    omega
  have total : (held ++ message.take taken).length +
      (message.drop taken).length = held.length + message.length := by
    rw [List.length_append, length, List.length_drop]
    omega
  unfold completed
  rw [total, List.append_assoc, List.take_append_drop]
  split
  · rfl
  · next beyond =>
      by_cases drops : dropPeriod limit width ≤
          held.length + padding + message.length
      · have padded : (held ++ message.take taken).length + padding +
            (message.drop taken).length =
              held.length + padding + message.length := by
          omega
        have small : (held.length + padding + message.length) %
            dropPeriod limit width ≤ message.length - taken := by
          rw [Nat.mod_eq_sub_mod drops]
          exact (Nat.mod_le _ _).trans (by omega)
        unfold leftover
        rw [padded]
        simp only [List.drop_drop, List.length_drop]
        congr 3
        omega
      · rw [leftover_eq_nil (by omega) (by omega),
          leftover_eq_nil (by omega) (by omega)]

/-- What is left over does not depend on what was dropped. -/
theorem leftover_drop (long : width < message.length)
    (drops : held.length + padding + width = dropPeriod limit width) :
    leftover limit width 0 [] (message.drop width) =
      leftover limit width padding held message := by
  have total : held.length + padding + message.length =
      dropPeriod limit width + (message.drop width).length := by
    rw [List.length_drop]
    omega
  have small : (message.drop width).length % dropPeriod limit width ≤
      message.length - width := by
    refine (Nat.mod_le _ _).trans ?_
    rw [List.length_drop]
  unfold leftover
  rw [total, Nat.add_mod_left]
  simp only [List.length_nil, Nat.zero_add, List.drop_drop]
  rw [List.length_drop] at small ⊢
  congr 3
  omega

variable (count) in
/-- The pieces of a message behind full pieces that are held complete what is
within the limit, or else what is left over. -/
theorem assemble_cut_completed (positive : 0 < width)
    (nonempty : 0 < message.length)
    (counted : held.length + padding = count * width)
    (few : count ≤ limit / width)
    (padded : limit + padding < dropPeriod limit width) :
    assemble limit held (cut width message) =
      ([], completed limit width padding held message) := by
  have fullest : limit / width * width ≤ limit := Nat.div_mul_le_self _ _
  have period : dropPeriod limit width = limit / width * width + width :=
    Nat.succ_mul _ _
  induction message using cut.induct width
    generalizing held padding count with
  | case1 message long induction =>
      have heldFull : count * width ≤ limit / width * width :=
        Nat.mul_le_mul_right _ few
      have length : (message.take width).length = width := by
        rw [List.length_take]
        omega
      have rest : (message.drop width).length = message.length - width :=
        List.length_drop
      rw [cut_long positive long.2, assemble_cons]
      by_cases fits : held.length + width ≤ limit
      · have next : (held ++ message.take width).length + padding =
            (count + 1) * width := by
          rw [List.length_append, length, Nat.succ_mul, ← counted]
          omega
        have below : (count + 1) * width < dropPeriod limit width := by
          rw [← next, List.length_append, length]
          omega
        have stillFew : count + 1 ≤ limit / width :=
          Nat.le_of_lt_succ (Nat.lt_of_mul_lt_mul_right below)
        rw [absorb_more (by omega),
          induction (count + 1) (by omega) next stillFew padded]
        rw [completed_take (by omega) (by omega)]
        rfl
      · have last : held.length + padding + width =
            dropPeriod limit width := by
          have most : count = limit / width := by
            by_contra fewer
            have more : (count + 1) * width ≤ limit / width * width :=
              Nat.mul_le_mul_right _ (by omega)
            rw [Nat.succ_mul, ← counted] at more
            omega
          rw [counted, most, period]
        have dropped : assemble limit [] (cut width (message.drop width)) =
            ([], completed limit width 0 [] (message.drop width)) :=
          induction 0 (by omega) (by simp) (Nat.zero_le _)
            (limit_lt_dropPeriod positive)
        rw [absorb_beyond (by simp only [length]; omega), dropped]
        have beyond : ¬ held.length + message.length ≤ limit := by omega
        simp only [completed, beyond, if_false]
        rw [← leftover_drop long.2 last]
        split
        · next short =>
          rw [leftover_within positive (by omega) (by simpa using short)]
          rfl
        · rfl
  | case2 message short =>
      have within : message.length ≤ width := by omega
      have heldFull : count * width ≤ limit / width * width :=
        Nat.mul_le_mul_right _ few
      rw [cut_short within, assemble_cons, assemble_nil]
      by_cases fits : held.length + message.length ≤ limit
      · rw [absorb_last fits]
        simp [completed, fits]
      · have nothing : leftover limit width padding held message = [] :=
          leftover_eq_nil (by omega) (by omega)
        rw [absorb_beyond (by simpa using fits)]
        simp [completed, fits, nothing]

/-- A message of any length, cut from the start, completes itself when it is
within the limit, and else what is left over of it. -/
theorem assemble_cutFirst_completed {first : Nat} (positive : 0 < width)
    (padsFirst : first + padding = width) (full : width ≤ limit)
    (padded : limit + padding < dropPeriod limit width) :
    assemble limit [] (cutFirst first width message) =
      ([], completed limit width padding [] message) := by
  by_cases long : first < message.length
  · have length : (message.take first).length = first := by
      rw [List.length_take]
      omega
    rw [cutFirst_long width long, assemble_cons,
      absorb_more (by simp only [List.length_nil, length]; omega),
      assemble_cut_completed 1 positive
        (by rw [List.length_drop]; omega)
        (by simp only [List.nil_append, length, Nat.one_mul]; omega)
        (by rwa [Nat.le_div_iff_mul_le positive, Nat.one_mul]) padded,
      completed_take (by omega) (by simp only [List.length_nil]; omega)]
    rfl
  · have short : ([] : List α).length + message.length ≤ limit := by
      simp only [List.length_nil]
      omega
    rw [cutFirst_short width (by omega), assemble_cons, absorb_last short]
    simp only [completed, short, if_true]
    rfl

/-- A stream of cut messages of any lengths completes what each of them
does. -/
theorem assemble_stream_completed {first : Nat} {messages : List (List α)}
    (positive : 0 < width) (padsFirst : first + padding = width)
    (full : width ≤ limit)
    (padded : limit + padding < dropPeriod limit width) :
    assemble limit [] (messages.flatMap (cutFirst first width)) =
      ([], messages.flatMap (completed limit width padding [])) := by
  induction messages with
  | nil => rfl
  | cons message messages induction =>
      rw [List.flatMap_cons, assemble_append,
        assemble_cutFirst_completed positive padsFirst full padded, induction]
      rfl

/-! ## When nothing is left over -/

/-- The length of a message of which nothing is left over. -/
def DropsCleanly (limit width padding length : Nat) : Prop :=
  length ≤ limit ∨ (padding + length) % dropPeriod limit width = 0 ∨
    limit < (padding + length) % dropPeriod limit width

instance (limit width padding length : Nat) :
    Decidable (DropsCleanly limit width padding length) :=
  inferInstanceAs (Decidable (_ ∨ _ ∨ _))

theorem completed_of_dropsCleanly
    (cleanly : DropsCleanly limit width padding message.length) :
    completed limit width padding [] message =
      if message.length ≤ limit then [message] else [] := by
  unfold completed
  simp only [List.length_nil, Nat.zero_add, List.nil_append]
  split
  · rfl
  · next beyond =>
      apply if_neg
      simp only [List.length_nil, Nat.zero_add]
      rcases cleanly with short | nothing | drop <;> omega

theorem completed_of_not_dropsCleanly
    (torn : ¬ DropsCleanly limit width padding message.length) :
    ∃ rest, completed limit width padding [] message = [rest] := by
  unfold DropsCleanly at torn
  unfold completed leftover
  simp only [List.length_nil, Nat.zero_add]
  rw [if_neg (by omega), if_pos (by omega)]
  exact ⟨_, rfl⟩

/-- No message within the limit is lost. -/
theorem length_filter_le_length_completed (limit width padding : Nat)
    (messages : List (List α)) :
    (messages.filter fun message => message.length ≤ limit).length ≤
      (messages.flatMap (completed limit width padding [])).length := by
  induction messages with
  | nil => rfl
  | cons message messages induction =>
      rw [List.flatMap_cons, List.length_append]
      by_cases short : message.length ≤ limit
      · have whole : completed limit width padding [] message = [message] :=
          (completed_of_dropsCleanly (.inl short)).trans (if_pos short)
        rw [List.filter_cons_of_pos (by simpa using short), whole]
        simp only [List.length_cons, List.length_nil]
        omega
      · rw [List.filter_cons_of_neg (by simpa using short)]
        omega

/-- The stream completes exactly its messages within the limit if and only if
nothing is left over of the others. -/
theorem flatMap_completed_eq_filter {messages : List (List α)} :
    messages.flatMap (completed limit width padding []) =
        messages.filter (fun message => message.length ≤ limit) ↔
      ∀ message ∈ messages,
        DropsCleanly limit width padding message.length := by
  induction messages with
  | nil => simp
  | cons message messages induction =>
      rw [List.flatMap_cons, List.forall_mem_cons, ← induction]
      by_cases cleanly : DropsCleanly limit width padding message.length
      · rw [completed_of_dropsCleanly cleanly]
        by_cases short : message.length ≤ limit
        · rw [if_pos short, List.filter_cons_of_pos (by simpa using short)]
          simp [cleanly]
        · rw [if_neg short, List.filter_cons_of_neg (by simpa using short)]
          simp [cleanly]
      · have short : ¬ message.length ≤ limit := fun short =>
          cleanly (.inl short)
        obtain ⟨rest, torn⟩ := completed_of_not_dropsCleanly cleanly
        rw [torn, List.filter_cons_of_neg (by simpa using short)]
        have none := length_filter_le_length_completed limit width padding
          messages
        simp only [cleanly, false_and, iff_false]
        intro same
        have lengths := congrArg List.length same
        simp only [List.length_append, List.length_cons,
          List.length_nil] at lengths
        omega

end Stitching
