import Mathlib.Data.List.Basic

/-!
# Logs of events

What a log of events has established by its end, and what it had established
before each of its events.  A grant holds from an event which gives it to the
next one which takes it back.
-/

namespace EventLog

variable {ε : Type u} {grants revokes : ε → Prop}
  {events more : List ε} {event : ε}

/-- Some event gives the grant, and none behind it takes it back. -/
def Since (grants revokes : ε → Prop) (events : List ε) : Prop :=
  ∃ before event after, events = before ++ event :: after ∧ grants event ∧
    ∀ later ∈ after, ¬ revokes later

/-- Every event has the property, given the events before it. -/
def Throughout (property : List ε → ε → Prop) (events : List ε) : Prop :=
  ∀ before event after, events = before ++ event :: after →
    property before event

/-- No two events are of the kind. -/
def AtMostOnce (kind : ε → Prop) (events : List ε) : Prop :=
  Throughout (fun before event => kind event →
    ∀ earlier ∈ before, ¬ kind earlier) events

/-- Exactly one event releases, and none behind it uses what was released. -/
def ReleasedOnce (releases uses : ε → Prop) (events : List ε) : Prop :=
  ∃ before event after, events = before ++ event :: after ∧ releases event ∧
    (∀ earlier ∈ before, ¬ releases earlier) ∧
    ∀ later ∈ after, ¬ releases later ∧ ¬ uses later

theorem not_since_nil : ¬ Since grants revokes ([] : List ε) := by
  rintro ⟨before, event, after, split, _⟩
  simp at split

theorem since_concat :
    Since grants revokes (events ++ [event]) ↔
      grants event ∨ Since grants revokes events ∧ ¬ revokes event := by
  constructor
  · rintro ⟨before, first, after, split, given, kept⟩
    rcases List.eq_nil_or_concat' after with rfl | ⟨later, last, rfl⟩
    · obtain ⟨_, same⟩ := List.append_inj' split rfl
      rw [List.cons.injEq] at same
      exact .inl (same.1 ▸ given)
    · rw [← List.cons_append, ← List.append_assoc] at split
      obtain ⟨rfl, same⟩ := List.append_inj' split rfl
      rw [List.cons.injEq] at same
      refine .inr ⟨⟨before, first, later, rfl, given, fun other member =>
        kept other (List.mem_append_left _ member)⟩, ?_⟩
      rw [same.1]
      exact kept last (by simp)
  · rintro (given | ⟨⟨before, first, after, rfl, given, kept⟩, stays⟩)
    · exact ⟨events, event, [], rfl, given, by simp⟩
    · refine ⟨before, first, after ++ [event], by simp, given, ?_⟩
      intro other member
      rcases List.mem_append.mp member with earlier | last
      · exact kept other earlier
      · rwa [List.mem_singleton.mp last]

/-- Events which neither give nor take back change nothing. -/
theorem since_append (unrelated : ∀ event ∈ more,
      ¬ grants event ∧ ¬ revokes event) :
    Since grants revokes (events ++ more) ↔ Since grants revokes events := by
  induction more generalizing events with
  | nil => rw [List.append_nil]
  | cons event more induction =>
      obtain ⟨noGrant, noRevoke⟩ := unrelated event (by simp)
      rw [← List.singleton_append, ← List.append_assoc,
        induction fun other member =>
          unrelated other (List.mem_cons_of_mem _ member),
        since_concat]
      simp [noGrant, noRevoke]

/-- After events which give nothing and take it back once, nothing is left. -/
theorem not_since_append (noGrant : ∀ event ∈ more, ¬ grants event)
    (revoked : ∃ event ∈ more, revokes event) :
    ¬ Since grants revokes (events ++ more) := by
  induction more generalizing events with
  | nil =>
      obtain ⟨event, member, _⟩ := revoked
      cases member
  | cons first more induction =>
      have later : ∀ event ∈ more, ¬ grants event := fun other member =>
        noGrant other (List.mem_cons_of_mem _ member)
      rw [← List.singleton_append, ← List.append_assoc]
      by_cases again : ∃ event ∈ more, revokes event
      · exact induction later again
      · obtain ⟨event, member, takesBack⟩ := revoked
        rcases List.mem_cons.mp member with rfl | behind
        · rw [since_append fun other member =>
              ⟨later other member, fun revokes =>
                again ⟨other, member, revokes⟩⟩, since_concat]
          rintro (given | ⟨_, kept⟩)
          · exact noGrant event (by simp) given
          · exact kept takesBack
        · exact absurd ⟨event, behind, takesBack⟩ again

variable {property : List ε → ε → Prop}

theorem throughout_nil : Throughout property [] := by
  intro before event after split
  simp at split

theorem throughout_concat :
    Throughout property (events ++ [event]) ↔
      Throughout property events ∧ property events event := by
  constructor
  · intro holds
    refine ⟨?_, holds events event [] rfl⟩
    rintro before first after rfl
    exact holds before first (after ++ [event]) (by simp)
  · rintro ⟨earlier, last⟩ before first after split
    rcases List.eq_nil_or_concat' after with rfl | ⟨later, other, rfl⟩
    · obtain ⟨rfl, same⟩ := List.append_inj' split rfl
      rw [List.cons.injEq] at same
      rwa [← same.1]
    · rw [← List.cons_append, ← List.append_assoc] at split
      obtain ⟨rfl, _⟩ := List.append_inj' split rfl
      exact earlier before first later rfl

/-- Events which always have the property add nothing to it. -/
theorem throughout_append
    (always : ∀ event ∈ more, ∀ before, property before event) :
    Throughout property (events ++ more) ↔ Throughout property events := by
  induction more generalizing events with
  | nil => rw [List.append_nil]
  | cons event more induction =>
      rw [← List.singleton_append, ← List.append_assoc,
        induction fun other member =>
          always other (List.mem_cons_of_mem _ member),
        throughout_concat]
      simp [always event (by simp)]

/-- Events which have the property, given all events before them. -/
theorem Throughout.extend (holds : Throughout property events)
    (later : ∀ before event after, more = before ++ event :: after →
      property (events ++ before) event) :
    Throughout property (events ++ more) := by
  induction more generalizing events with
  | nil => rwa [List.append_nil]
  | cons event more induction =>
      rw [← List.singleton_append, ← List.append_assoc]
      apply induction
      · rw [throughout_concat]
        refine ⟨holds, ?_⟩
        simpa using later [] event more rfl
      · rintro before other after rfl
        simpa using later (event :: before) other after rfl

theorem atMostOnce_nil {kind : ε → Prop} : AtMostOnce kind [] :=
  throughout_nil

theorem atMostOnce_cons {kind : ε → Prop} :
    AtMostOnce kind (event :: events) ↔
      (kind event → ∀ later ∈ events, ¬ kind later) ∧
        AtMostOnce kind events := by
  constructor
  · intro once
    constructor
    · intro here later member again
      obtain ⟨before, after, rfl⟩ := List.append_of_mem member
      exact once (event :: before) later after rfl again event (by simp) here
    · rintro before other after rfl again earlier member
      exact once (event :: before) other after rfl again earlier
        (List.mem_cons_of_mem _ member)
  · rintro ⟨first, later⟩ before other after split again earlier member
    cases before with
    | nil => cases member
    | cons head before =>
        obtain ⟨rfl, rfl⟩ := List.cons.inj split
        rcases List.mem_cons.mp member with rfl | behind
        · intro here
          exact first here other (by simp) again
        · exact later before other after rfl again earlier behind

/-- What is given once, and taken back only while it is held, is not taken back
twice. -/
theorem not_revoked_twice
    (apart : ∀ event, grants event → ¬ revokes event)
    (once : AtMostOnce grants events)
    (held : Throughout (fun before event => revokes event →
      Since grants revokes before) events) :
    AtMostOnce revokes events := by
  intro before event after split takesBack earlier member revoked
  obtain ⟨first, between, rfl⟩ := List.append_of_mem member
  have firstHeld : Since grants revokes first := by
    apply held first earlier (between ++ event :: after) _ revoked
    rw [split, List.append_assoc, List.cons_append]
  obtain ⟨start, again, rest, same, givesAgain, kept⟩ :=
    held _ event after split takesBack
  rcases List.append_eq_append_iff.mp same with
    ⟨more, rfl, behind⟩ | ⟨more, rfl, behind⟩
  · -- The first event to take back lies before the last grant.
    cases more with
    | nil =>
        obtain ⟨rfl, _⟩ := List.cons.inj behind
        exact apart _ givesAgain revoked
    | cons head more =>
        obtain ⟨early, given, kept, rfl, gives, _⟩ := firstHeld
        have member : given ∈ (early ++ given :: kept) ++ head :: more := by
          simp
        apply once _ again (rest ++ event :: after) _ givesAgain given member
          gives
        rw [split, same, List.append_assoc, List.cons_append]
  · cases more with
    | nil =>
        obtain ⟨rfl, _⟩ := List.cons.inj behind
        exact apart _ givesAgain revoked
    | cons head more =>
        obtain ⟨rfl, rfl⟩ := List.cons.inj behind
        exact kept earlier (by simp) revoked

/-! ## One holder -/

section Holds

variable {κ : Type v} {gives takes : κ → ε → Prop} {slot : Option κ}
  {key : κ}

/-- The slot names the one key which was given and not taken back, and keys
are only taken back while they are held. -/
structure Holds (gives takes : κ → ε → Prop) (slot : Option κ)
    (events : List ε) : Prop where
  held : ∀ key, Since (gives key) (takes key) events ↔ slot = some key
  taken : ∀ key, Throughout (fun before event => takes key event →
    Since (gives key) (takes key) before) events

theorem Holds.nil : Holds gives takes none [] where
  held := fun key => by simp [not_since_nil]
  taken := fun _ => throughout_nil

theorem Holds.append (holds : Holds gives takes slot events)
    (unrelated : ∀ event ∈ more, ∀ key, ¬ gives key event ∧ ¬ takes key event) :
    Holds gives takes slot (events ++ more) where
  held := fun key => by
    rw [since_append fun event member => unrelated event member key,
      holds.held]
  taken := fun key => by
    rw [throughout_append fun event member _ taken =>
      absurd taken (unrelated event member key).2]
    exact holds.taken key

/-- An event which gives one key fills an empty slot. -/
theorem Holds.give (holds : Holds gives takes none events)
    (given : ∀ other, gives other event ↔ other = key)
    (kept : ∀ other, ¬ takes other event) :
    Holds gives takes (some key) (events ++ [event]) where
  held := fun other => by
    rw [since_concat, holds.held, given]
    simp [eq_comm]
  taken := fun other => by
    rw [throughout_concat]
    exact ⟨holds.taken other, fun taken => absurd taken (kept other)⟩

/-- An event which takes back the key held empties the slot. -/
theorem Holds.take (holds : Holds gives takes (some key) events)
    (taken : ∀ other, takes other event ↔ other = key)
    (ungiven : ∀ other, ¬ gives other event) :
    Holds gives takes none (events ++ [event]) where
  held := fun other => by
    rw [since_concat, holds.held, taken]
    simp [ungiven, eq_comm]
  taken := fun other => by
    rw [throughout_concat]
    refine ⟨holds.taken other, fun takes => ?_⟩
    rw [holds.held, (taken other).mp takes]

/-- A key given once is taken back once. -/
theorem Holds.taken_once (holds : Holds gives takes slot events)
    (apart : ∀ event, gives key event → ¬ takes key event)
    (once : AtMostOnce (gives key) events) :
    AtMostOnce (takes key) events :=
  not_revoked_twice apart once (holds.taken key)

end Holds

/-! ## Releasing once -/

section ReleasedOnce

variable {releases uses : ε → Prop}

theorem not_releasedOnce_nil : ¬ ReleasedOnce releases uses [] := by
  rintro ⟨before, event, after, split, _⟩
  simp at split

theorem releasedOnce_cons :
    ReleasedOnce releases uses (event :: events) ↔
      (releases event ∧
          ∀ later ∈ events, ¬ releases later ∧ ¬ uses later) ∨
        (¬ releases event ∧ ReleasedOnce releases uses events) := by
  constructor
  · rintro ⟨before, first, after, split, released, earlier, later⟩
    cases before with
    | nil =>
        obtain ⟨rfl, rfl⟩ := List.cons.inj split
        exact .inl ⟨released, later⟩
    | cons head before =>
        obtain ⟨rfl, rfl⟩ := List.cons.inj split
        refine .inr ⟨earlier event (by simp), before, first, after, rfl,
          released, ?_, later⟩
        exact fun other member =>
          earlier other (List.mem_cons_of_mem _ member)
  · rintro (⟨released, later⟩ |
      ⟨unreleased, before, first, after, rfl, released, earlier, later⟩)
    · exact ⟨[], event, events, rfl, released, by simp, later⟩
    · refine ⟨event :: before, first, after, rfl, released, ?_, later⟩
      intro other member
      rcases List.mem_cons.mp member with rfl | behind
      · exact unreleased
      · exact earlier other behind

/-- Events which do not release may stand in front. -/
theorem releasedOnce_append (unreleased : ∀ event ∈ more, ¬ releases event) :
    ReleasedOnce releases uses (more ++ events) ↔
      ReleasedOnce releases uses events := by
  induction more with
  | nil => rw [List.nil_append]
  | cons event more induction =>
      have here : ¬ releases event := unreleased event (by simp)
      rw [List.cons_append, releasedOnce_cons,
        induction fun other member =>
          unreleased other (List.mem_cons_of_mem _ member)]
      simp [here]

end ReleasedOnce

end EventLog
