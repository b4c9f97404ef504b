import Mathlib.Data.List.Nodup
import Mathlib.Data.List.Pairwise
import Mathlib.Data.List.Sigma

/-!
# Attempts at items which come in groups

Items are attempted once each, in order, and every attempt succeeds or fails.
The items belong to groups.  Only complete groups succeed, apart from a prefix
of the group being attempted, exactly when the outcomes within a group agree;
a group still being attempted may go over from success to failure.
-/

namespace GroupedAttempts

variable {β : Type u}

/-- The items whose attempt succeeded. -/
def successes : List β → List Bool → List β
  | item :: items, outcome :: outcomes =>
      if outcome then item :: successes items outcomes
      else successes items outcomes
  | [], _ => []
  | _ :: _, [] => []

/-- What succeeded is a concatenation of complete groups, possibly followed by
a prefix of a group of which some item was not attempted yet. -/
def Whole (groups : List (List β)) (attempted succeeded : List β) : Prop :=
  ∃ (complete : List (List β)) (part : List β),
    complete.Sublist groups ∧ succeeded = complete.flatten ++ part ∧
      (part = [] ∨
        ∃ group ∈ groups, (∃ item ∈ group, item ∉ attempted) ∧
          part <+: group)

/-- An item succeeds only if all before it in its group did. -/
def Unbroken (groups : List (List β)) (succeeded : List β) : Prop :=
  ∀ group ∈ groups, group.Pairwise fun earlier later =>
    later ∈ succeeded → earlier ∈ succeeded

/-- No success after a failure; and in a group of which all items were
attempted no failure after a success either. -/
def Even (size : Nat) (outcomes : List Bool) : Prop :=
  (outcomes.Pairwise fun earlier later => later = true → earlier = true) ∧
    (outcomes.length = size →
      outcomes.Pairwise fun earlier later => earlier = true → later = true)

/-- The outcomes are even in every group, for groups of these sizes. -/
def EachEven : List Nat → List Bool → Prop
  | [], _ => True
  | size :: sizes, outcomes =>
      Even size (outcomes.take size) ∧ EachEven sizes (outcomes.drop size)

instance (size : Nat) (outcomes : List Bool) :
    Decidable (Even size outcomes) :=
  inferInstanceAs (Decidable (_ ∧ _))

instance decidableEachEven :
    ∀ sizes outcomes, Decidable (EachEven sizes outcomes)
  | [], _ => .isTrue trivial
  | size :: sizes, outcomes =>
      have := decidableEachEven sizes (outcomes.drop size)
      inferInstanceAs (Decidable (_ ∧ _))

/-! ## What succeeds -/

@[simp] theorem successes_nil (items : List β) : successes items [] = [] := by
  cases items <;> rfl

theorem successes_sublist (items : List β) (outcomes : List Bool) :
    (successes items outcomes).Sublist items := by
  induction items generalizing outcomes with
  | nil => exact .slnil
  | cons item items induction =>
      cases outcomes with
      | nil => exact List.nil_sublist _
      | cons outcome outcomes =>
          rw [successes]
          split
          · exact (induction outcomes).cons_cons item
          · exact (induction outcomes).cons item

theorem successes_append (first second : List β) (outcomes : List Bool) :
    successes (first ++ second) outcomes =
      successes first (outcomes.take first.length) ++
        successes second (outcomes.drop first.length) := by
  induction first generalizing outcomes with
  | nil => rfl
  | cons item first induction =>
      cases outcomes with
      | nil => simp
      | cons outcome outcomes =>
          cases outcome <;> simp [successes, induction]

/-- Items behind the attempts do not matter. -/
theorem successes_take (items : List β) (outcomes : List Bool) :
    successes (items.take outcomes.length) outcomes =
      successes items outcomes := by
  induction items generalizing outcomes with
  | nil => simp
  | cons item items induction =>
      cases outcomes with
      | nil => simp
      | cons outcome outcomes =>
          simp only [List.length_cons, List.take_succ_cons, successes,
            induction]

/-! ## The outcomes in one group -/

/-- Outcomes which all agree are even. -/
theorem even_of_same {outcomes : List Bool} {value : Bool}
    (same : ∀ outcome ∈ outcomes, outcome = value) (size : Nat) :
    Even size outcomes := by
  constructor
  · apply List.pairwise_of_forall_mem_list
    intro earlier earlierMember later laterMember succeeded
    rw [same earlier earlierMember, ← same later laterMember]
    exact succeeded
  · intro _
    apply List.pairwise_of_forall_mem_list
    intro earlier earlierMember later laterMember succeeded
    rw [same later laterMember, ← same earlier earlierMember]
    exact succeeded

theorem successes_of_all_succeeded {items : List β} {outcomes : List Bool}
    (length : outcomes.length = items.length)
    (succeeded : ∀ outcome ∈ outcomes, outcome = true) :
    successes items outcomes = items := by
  induction items generalizing outcomes with
  | nil => rfl
  | cons item items induction =>
      cases outcomes with
      | nil => cases length
      | cons outcome outcomes =>
          have head := succeeded outcome (by simp)
          have rest := induction (Nat.succ.inj length) fun other member =>
            succeeded other (List.mem_cons_of_mem _ member)
          simp [successes, head, rest]

theorem successes_of_all_failed {outcomes : List Bool}
    (failed : ∀ outcome ∈ outcomes, outcome = false) (items : List β) :
    successes items outcomes = [] := by
  induction items generalizing outcomes with
  | nil => rfl
  | cons item items induction =>
      cases outcomes with
      | nil => rfl
      | cons outcome outcomes =>
          have head := failed outcome (by simp)
          have rest := induction fun other member =>
            failed other (List.mem_cons_of_mem _ member)
          simp [successes, head, rest]

theorem prefix_of_ordered {outcomes : List Bool}
    (ordered : outcomes.Pairwise fun earlier later =>
      later = true → earlier = true) (items : List β) :
    successes items outcomes <+: items := by
  induction items generalizing outcomes with
  | nil => exact ⟨[], rfl⟩
  | cons item items induction =>
      cases outcomes with
      | nil => exact ⟨item :: items, rfl⟩
      | cons outcome outcomes =>
          obtain ⟨first, rest⟩ := List.pairwise_cons.mp ordered
          cases outcome with
          | true => exact List.cons_prefix_cons.mpr ⟨rfl, induction rest⟩
          | false =>
              have failed : ∀ outcome ∈ outcomes, outcome = false := by
                intro outcome member
                simpa using first outcome member
              simp [successes, successes_of_all_failed failed]

theorem all_failed {items : List β} {outcomes : List Bool}
    (within : outcomes.length ≤ items.length)
    (nothing : successes items outcomes = []) :
    ∀ outcome ∈ outcomes, outcome = false := by
  induction items generalizing outcomes with
  | nil => simp_all
  | cons item items induction =>
      cases outcomes with
      | nil => exact nofun
      | cons outcome outcomes =>
          cases outcome with
          | true => simp [successes] at nothing
          | false =>
              have rest : successes items outcomes = [] := nothing
              have restWithin : outcomes.length ≤ items.length := by
                simpa using within
              intro other member
              rcases List.mem_cons.mp member with head | later
              · exact head
              · exact induction restWithin rest other later

theorem all_succeeded {items : List β} {outcomes : List Bool}
    (within : outcomes.length ≤ items.length)
    (everything : successes items outcomes = items) :
    ∀ outcome ∈ outcomes, outcome = true := by
  induction items generalizing outcomes with
  | nil => simp_all
  | cons item items induction =>
      cases outcomes with
      | nil => exact nofun
      | cons outcome outcomes =>
          cases outcome with
          | true =>
              have rest : successes items outcomes = items :=
                (List.cons.inj everything).2
              have restWithin : outcomes.length ≤ items.length := by
                simpa using within
              intro other member
              rcases List.mem_cons.mp member with head | later
              · exact head
              · exact induction restWithin rest other later
          | false =>
              have shorter := (successes_sublist items outcomes).length_le
              have rest : successes items outcomes = item :: items :=
                everything
              rw [rest, List.length_cons] at shorter
              omega

/-- Of attempts none of which is behind the items, a prefix succeeds only when
there is no success after a failure. -/
theorem ordered_of_initial {items : List β} {outcomes : List Bool}
    (nodup : items.Nodup) (within : outcomes.length ≤ items.length)
    (initial : successes items outcomes <+: items) :
    outcomes.Pairwise fun earlier later => later = true → earlier = true := by
  induction items generalizing outcomes with
  | nil =>
      rw [List.eq_nil_of_length_eq_zero (Nat.le_zero.mp within)]
      exact .nil
  | cons item items induction =>
      cases outcomes with
      | nil => exact .nil
      | cons outcome outcomes =>
          obtain ⟨fresh, restNodup⟩ := List.nodup_cons.mp nodup
          have restWithin : outcomes.length ≤ items.length := by
            simpa using within
          cases outcome with
          | true =>
              have rest := (List.cons_prefix_cons.mp initial).2
              exact List.pairwise_cons.mpr
                ⟨fun _ _ _ => rfl, induction restNodup restWithin rest⟩
          | false =>
              have sublist := successes_sublist items outcomes
              have nothing : successes items outcomes = [] := by
                cases succeeded : successes items outcomes with
                | nil => rfl
                | cons first others =>
                    have starts : first :: others <+: item :: items := by
                      rw [← succeeded]
                      exact initial
                    have same := (List.cons_prefix_cons.mp starts).1
                    have later : first ∈ items :=
                      sublist.subset (by simp [succeeded])
                    exact absurd (same ▸ later) fresh
              exact (even_of_same (all_failed within nothing) 0).1

/-- In one group: a prefix succeeds, and everything or nothing once all items
were attempted. -/
theorem even_iff {items : List β} {outcomes : List Bool}
    (nodup : items.Nodup) (within : outcomes.length ≤ items.length) :
    Even items.length outcomes ↔
      successes items outcomes <+: items ∧
        (outcomes.length = items.length →
          successes items outcomes = items ∨
            successes items outcomes = []) := by
  constructor
  · rintro ⟨ordered, full⟩
    refine ⟨prefix_of_ordered ordered items, fun length => ?_⟩
    cases outcomes with
    | nil => exact .inr (successes_nil items)
    | cons outcome outcomes =>
        cases outcome with
        | true =>
            left
            apply successes_of_all_succeeded length
            intro other member
            rcases List.mem_cons.mp member with head | later
            · exact head
            · exact (List.pairwise_cons.mp (full length)).1 other later rfl
        | false =>
            right
            apply successes_of_all_failed
            intro other member
            rcases List.mem_cons.mp member with head | later
            · exact head
            · simpa using (List.pairwise_cons.mp ordered).1 other later
  · rintro ⟨initial, full⟩
    refine ⟨ordered_of_initial nodup within initial, fun length => ?_⟩
    rcases full length with everything | nothing
    · exact (even_of_same (all_succeeded within everything) items.length).2
        length
    · exact (even_of_same (all_failed within nothing) items.length).2 length

/-! ## All groups -/

theorem eq_of_shared {groups : List (List β)} (nodup : groups.flatten.Nodup)
    {first second : List β} (firstMember : first ∈ groups)
    (secondMember : second ∈ groups) {item : β} (inFirst : item ∈ first)
    (inSecond : item ∈ second) : first = second := by
  have disjoint := (List.nodup_flatten.mp nodup).2
  have symmetric : Std.Symm (@List.Disjoint β) :=
    ⟨fun _ _ apart => List.disjoint_symm apart⟩
  by_contra different
  exact disjoint.forall firstMember secondMember different inFirst inSecond

theorem pairwise_initial {first rest : List β}
    (nodup : (first ++ rest).Nodup) :
    (first ++ rest).Pairwise fun earlier later =>
      later ∈ first → earlier ∈ first := by
  have apart := (List.nodup_append'.mp nodup).2.2
  refine List.pairwise_append.mpr ⟨?_, ?_, ?_⟩
  · exact List.pairwise_of_forall_mem_list fun _ member _ _ _ => member
  · exact List.pairwise_of_forall_mem_list
      fun _ _ _ member inFirst => absurd member (apart inFirst)
  · exact fun _ member _ _ _ => member

/-- Where only whole groups succeed, no item succeeds behind a failed one of
its group. -/
theorem Whole.unbroken {groups : List (List β)}
    {attempted succeeded : List β} (nodup : groups.flatten.Nodup)
    (whole : Whole groups attempted succeeded) :
    Unbroken groups succeeded := by
  obtain ⟨complete, part, sublist, content, atEnd⟩ := whole
  intro group member
  have groupNodup := (List.nodup_flatten.mp nodup).1 group member
  rw [content, List.pairwise_iff_forall_sublist]
  intro earlier later ordered inContent
  have earlierMember : earlier ∈ group := ordered.subset (by simp)
  have laterMember : later ∈ group := ordered.subset (by simp)
  rcases List.mem_append.mp inContent with inComplete | inPart
  · obtain ⟨other, otherMember, inOther⟩ := List.mem_flatten.mp inComplete
    have same := eq_of_shared nodup member (sublist.subset otherMember)
      laterMember inOther
    exact List.mem_append_left part
      (List.mem_flatten.mpr ⟨other, otherMember, same ▸ earlierMember⟩)
  · rcases atEnd with nothing | ⟨other, otherMember, _unattempted, rest⟩
    · rw [nothing] at inPart
      cases inPart
    · have same := eq_of_shared nodup member otherMember laterMember
        (rest.subset inPart)
      obtain ⟨behind, split⟩ := rest
      rw [← same] at split
      rw [← split] at groupNodup ordered
      have before := List.pairwise_iff_forall_sublist.mp
        (pairwise_initial groupNodup) ordered inPart
      exact List.mem_append_right complete.flatten before

section Cons

variable {group : List β} {groups : List (List β)} {outcomes : List Bool}

theorem nil_of_apart {first second items : List β}
    (apart : first.Disjoint second) (inFirst : items ⊆ first)
    (inSecond : items ⊆ second) : items = [] := by
  apply List.eq_nil_iff_forall_not_mem.mpr
  intro item member
  exact apart (inFirst member) (inSecond member)

/-- What succeeded and was attempted in the further groups. -/
abbrev WholeAfter (groups : List (List β)) (outcomes : List Bool) : Prop :=
  Whole groups (groups.flatten.take outcomes.length)
    (successes groups.flatten outcomes)

theorem WholeAfter.cons (nodup : (group :: groups).flatten.Nodup)
    (even : Even group.length (outcomes.take group.length))
    (whole : WholeAfter groups (outcomes.drop group.length)) :
    WholeAfter (group :: groups) outcomes := by
  rw [List.flatten_cons] at nodup
  obtain ⟨groupNodup, _, apart⟩ := List.nodup_append'.mp nodup
  obtain ⟨initial, full⟩ :=
    (even_iff groupNodup (List.length_take_le _ _)).mp even
  rw [WholeAfter, List.flatten_cons, successes_append, List.take_append]
  by_cases all : group.length ≤ outcomes.length
  · obtain ⟨complete, part, sublist, content, atEnd⟩ := whole
    rw [List.length_drop] at atEnd
    have stillAtEnd :
        part = [] ∨
          ∃ other ∈ group :: groups,
            (∃ item ∈ other, item ∉ group.take outcomes.length ++
              groups.flatten.take (outcomes.length - group.length)) ∧
              part <+: other := by
      rcases atEnd with
        nothing | ⟨other, member, ⟨item, inOther, unattempted⟩, starts⟩
      · exact .inl nothing
      · refine .inr ⟨other, List.mem_cons_of_mem _ member,
          ⟨item, inOther, ?_⟩, starts⟩
        intro attempted
        rcases List.mem_append.mp attempted with inGroup | later
        · exact apart (List.mem_of_mem_take inGroup)
            (List.mem_flatten.mpr ⟨other, member, inOther⟩)
        · exact unattempted later
    rcases full (List.length_take_of_le all) with everything | nothing
    · refine ⟨group :: complete, part, sublist.cons_cons group, ?_, stillAtEnd⟩
      rw [everything, content, List.flatten_cons, List.append_assoc]
    · refine ⟨complete, part, sublist.cons group, ?_, stillAtEnd⟩
      rw [nothing, content, List.nil_append]
  · have few : outcomes.length ≤ group.length := by omega
    have none : outcomes.drop group.length = [] := List.drop_of_length_le few
    refine ⟨[], successes group (outcomes.take group.length),
      List.nil_sublist _, by simp [none], .inr ⟨group, by simp, ?_, initial⟩⟩
    have rest : group.drop outcomes.length ≠ [] := by
      intro nothing
      exact all (List.drop_eq_nil_iff.mp nothing)
    obtain ⟨item, behind⟩ := List.exists_mem_of_ne_nil _ rest
    refine ⟨item, List.mem_of_mem_drop behind, ?_⟩
    rw [Nat.sub_eq_zero_of_le few, List.take_zero, List.append_nil]
    intro attempted
    exact List.disjoint_take_drop groupNodup (Nat.le_refl _) attempted behind

/-- A concatenation which begins with a whole group begins with the successes
in that group only if these are everything. -/
theorem successes_of_starts {rest further : List β}
    (apart : group.Disjoint groups.flatten)
    (later : further ⊆ groups.flatten)
    (content :
      successes group (outcomes.take group.length) ++ further = group ++ rest) :
    successes group (outcomes.take group.length) = group ∧ further = rest := by
  have sublist := successes_sublist group (outcomes.take group.length)
  rcases List.append_eq_append_iff.mp content with
    ⟨missing, split, behind⟩ | ⟨more, split, behind⟩
  · have nothing : missing = [] := by
      apply nil_of_apart apart
      · intro item member
        rw [split]
        exact List.mem_append_right _ member
      · intro item member
        apply later
        rw [behind]
        exact List.mem_append_left _ member
    rw [nothing, List.append_nil] at split
    rw [nothing, List.nil_append] at behind
    exact ⟨split.symm, behind⟩
  · have shorter := sublist.length_le
    rw [split, List.length_append] at shorter
    have nothing : more = [] := List.eq_nil_of_length_eq_zero (by omega)
    rw [nothing, List.append_nil] at split
    rw [nothing, List.nil_append] at behind
    exact ⟨split, behind.symm⟩

theorem flatten_subset_of_sublist {some all : List (List β)}
    (sublist : some.Sublist all) : some.flatten ⊆ all.flatten := by
  intro item member
  obtain ⟨group, groupMember, inGroup⟩ := List.mem_flatten.mp member
  exact List.mem_flatten.mpr ⟨group, sublist.subset groupMember, inGroup⟩

section Uncons

variable {complete : List (List β)} {part : List β}

/-- Where the successes are items of further groups, all attempts in the first
group failed. -/
theorem successes_of_further (apart : group.Disjoint groups.flatten)
    (sublist : complete.Sublist groups) (further : part ⊆ groups.flatten)
    (content :
      successes group (outcomes.take group.length) ++
          successes groups.flatten (outcomes.drop group.length) =
        complete.flatten ++ part) :
    successes group (outcomes.take group.length) = [] ∧
      successes groups.flatten (outcomes.drop group.length) =
        complete.flatten ++ part := by
  have nothing : successes group (outcomes.take group.length) = [] := by
    apply nil_of_apart apart (successes_sublist group _).subset
    intro item member
    have inBoth := List.mem_append_left
      (successes groups.flatten (outcomes.drop group.length)) member
    rw [content] at inBoth
    rcases List.mem_append.mp inBoth with inComplete | inPart
    · exact flatten_subset_of_sublist sublist inComplete
    · exact further inPart
  rw [nothing, List.nil_append] at content
  exact ⟨nothing, content⟩

/-- Where the successes end in the first group, nothing succeeded behind it. -/
theorem successes_of_part (apart : group.Disjoint groups.flatten)
    (sublist : complete.Sublist groups) (inGroup : part ⊆ group)
    (content :
      successes group (outcomes.take group.length) ++
          successes groups.flatten (outcomes.drop group.length) =
        complete.flatten ++ part) :
    part ⊆ groups.flatten ∨
      (successes group (outcomes.take group.length) = part ∧
        successes groups.flatten (outcomes.drop group.length) = []) := by
  have first := (successes_sublist group
    (outcomes.take group.length)).subset
  have later := (successes_sublist groups.flatten
    (outcomes.drop group.length)).subset
  rcases List.append_eq_append_iff.mp content with
    ⟨missing, split, behind⟩ | ⟨more, split, behind⟩
  · left
    intro item member
    apply later
    rw [behind]
    exact List.mem_append_right missing member
  · right
    have noneComplete : complete.flatten = [] := by
      refine nil_of_apart apart ?_ (flatten_subset_of_sublist sublist)
      intro item member
      apply first
      rw [split]
      exact List.mem_append_left more member
    have noneLater :
        successes groups.flatten (outcomes.drop group.length) = [] := by
      refine nil_of_apart apart ?_ later
      intro item member
      apply inGroup
      rw [behind]
      exact List.mem_append_right more member
    rw [noneLater, List.append_nil] at behind
    rw [noneComplete, List.nil_append, ← behind] at split
    exact ⟨split, noneLater⟩

end Uncons

theorem WholeAfter.uncons (nodup : (group :: groups).flatten.Nodup)
    (whole : WholeAfter (group :: groups) outcomes) :
    Even group.length (outcomes.take group.length) ∧
      WholeAfter groups (outcomes.drop group.length) := by
  rw [List.flatten_cons] at nodup
  obtain ⟨groupNodup, _, apart⟩ := List.nodup_append'.mp nodup
  rw [WholeAfter, List.flatten_cons, successes_append,
    List.take_append] at whole
  rw [even_iff groupNodup (List.length_take_le _ _)]
  have later {item : β}
      (unattempted : item ∉ group.take outcomes.length ++
        groups.flatten.take (outcomes.length - group.length)) :
      item ∉ groups.flatten.take (outcomes.drop group.length).length := by
    intro attempted
    rw [List.length_drop] at attempted
    exact unattempted (List.mem_append_right _ attempted)
  obtain ⟨complete, part, sublist, content, atEnd⟩ := whole
  cases sublist with
  | @cons_cons others _ _ sublist =>
      rw [List.flatten_cons, List.append_assoc] at content
      have inGroups := (successes_sublist groups.flatten
        (outcomes.drop group.length)).subset
      obtain ⟨everything, rest⟩ := successes_of_starts apart inGroups content
      rw [everything]
      refine ⟨⟨List.prefix_rfl, fun _ => .inl rfl⟩, others, part, sublist,
        rest, ?_⟩
      rcases atEnd with
        nothing | ⟨other, member, ⟨item, inOther, unattempted⟩, starts⟩
      · exact .inl nothing
      · rcases List.mem_cons.mp member with here | further
        · left
          refine nil_of_apart apart (here ▸ starts.subset) ?_
          intro item member
          apply inGroups
          rw [rest]
          exact List.mem_append_right _ member
        · exact .inr
            ⟨other, further, ⟨item, inOther, later unattempted⟩, starts⟩
  | cons _ sublist =>
      -- The first group is not among the complete ones: it failed, or it is
      -- the one being attempted.
      have failed (further : part ⊆ groups.flatten)
          (ends : part = [] ∨ ∃ other ∈ groups,
            (∃ item ∈ other, item ∉
              groups.flatten.take (outcomes.drop group.length).length) ∧
              part <+: other) :
          (successes group (outcomes.take group.length) <+: group ∧
            ((outcomes.take group.length).length = group.length →
              successes group (outcomes.take group.length) = group ∨
                successes group (outcomes.take group.length) = [])) ∧
            WholeAfter groups (outcomes.drop group.length) := by
        obtain ⟨nothing, rest⟩ :=
          successes_of_further apart sublist further content
        rw [nothing]
        exact ⟨⟨⟨group, rfl⟩, fun _ => .inr rfl⟩, complete, part, sublist,
          rest, ends⟩
      rcases atEnd with
        nothing | ⟨other, member, ⟨item, inOther, unattempted⟩, starts⟩
      · exact failed (by simp [nothing]) (.inl nothing)
      · rcases List.mem_cons.mp member with here | further
        · subst here
          rcases successes_of_part apart sublist starts.subset content with
            partIn | ⟨attempting, noneLater⟩
          · exact failed partIn (.inl (nil_of_apart apart starts.subset partIn))
          · rw [attempting, WholeAfter, noneLater]
            refine ⟨⟨starts, fun full => ?_⟩, [], [], List.nil_sublist _, rfl,
              .inl rfl⟩
            rw [List.length_take] at full
            rw [List.take_of_length_le (by omega : other.length ≤ _)]
              at unattempted
            exact absurd (List.mem_append_left _ inOther) unattempted
        · refine failed (fun item member => ?_)
            (.inr ⟨other, further, ⟨item, inOther, later unattempted⟩, starts⟩)
          exact List.mem_flatten.mpr ⟨other, further, starts.subset member⟩

end Cons

/-- Only whole groups succeed, up to a prefix of the group being attempted,
exactly when the outcomes are even in every group. -/
theorem wholeAfter_iff {groups : List (List β)} {outcomes : List Bool}
    (nodup : groups.flatten.Nodup) :
    WholeAfter groups outcomes ↔
      EachEven (groups.map List.length) outcomes := by
  induction groups generalizing outcomes with
  | nil =>
      refine iff_of_true ?_ trivial
      exact ⟨[], [], .slnil, rfl, .inl rfl⟩
  | cons group groups induction =>
      have restNodup : groups.flatten.Nodup := by
        rw [List.flatten_cons] at nodup
        exact (List.nodup_append'.mp nodup).2.1
      rw [List.map_cons, EachEven, ← induction restNodup]
      constructor
      · exact fun whole => whole.uncons nodup
      · exact fun ⟨even, whole⟩ => whole.cons nodup even

/-! ## Numbered items -/

variable {α : Type v}

/-- Equal items are told apart by their place in the order of attempts. -/
def numbered : Nat → List (List α) → List (List (α × Nat))
  | _, [] => []
  | start, group :: groups =>
      group.zipIdx start :: numbered (start + group.length) groups

theorem numbered_flatten (start : Nat) (groups : List (List α)) :
    (numbered start groups).flatten = groups.flatten.zipIdx start := by
  induction groups generalizing start with
  | nil => rfl
  | cons group groups induction =>
      rw [numbered, List.flatten_cons, induction, List.flatten_cons,
        List.zipIdx_append]

theorem numbered_lengths (start : Nat) (groups : List (List α)) :
    (numbered start groups).map List.length = groups.map List.length := by
  induction groups generalizing start with
  | nil => rfl
  | cons group groups induction =>
      rw [numbered, List.map_cons, List.map_cons, induction,
        List.length_zipIdx]

theorem numbered_nodup (groups : List (List α)) :
    (numbered 0 groups).flatten.Nodup := by
  rw [numbered_flatten]
  exact .of_map Prod.snd (List.nodup_zipIdx_map_snd groups.flatten)

/-- The exact condition for attempts at the first of the items. -/
theorem numbered_iff {groups : List (List α)} {attempted rest : List α}
    {outcomes : List Bool} (order : attempted ++ rest = groups.flatten)
    (length : attempted.length = outcomes.length) :
    Whole (numbered 0 groups) attempted.zipIdx
          (successes attempted.zipIdx outcomes) ∧
        Unbroken (numbered 0 groups)
          (successes attempted.zipIdx outcomes) ↔
      EachEven (groups.map List.length) outcomes := by
  have nodup := numbered_nodup groups
  have first :
      (numbered 0 groups).flatten.take outcomes.length =
        attempted.zipIdx := by
    rw [numbered_flatten, ← order, List.zipIdx_append]
    exact List.take_left' (by rw [List.length_zipIdx, length])
  have exactly := @wholeAfter_iff _ _ outcomes nodup
  rw [WholeAfter, ← successes_take, first, numbered_lengths] at exactly
  rw [← exactly]
  exact and_iff_left_of_imp (Whole.unbroken nodup)

end GroupedAttempts
