import Mathlib.Data.List.Basic
import Mathlib.Data.List.TakeDrop
import Mathlib.Data.List.Infix
import Mathlib.Data.List.Flatten

/-!
# Stitched streams

A message too long for one frame is cut into pieces; every piece but the last
announces that more follow.  A bounded reassembler holds what arrived of the
current message, drops it once it passes the limit, and releases it with its
last piece.  Cutting and reassembling are inverse for messages within the
limit, for any sequence of messages, and a shorter input never releases
anything the longer one does not.
-/

namespace Stitching

/-- A piece of a message, and whether more pieces of it follow. -/
structure Piece (α : Type u) where
  body : List α
  more : Bool
deriving DecidableEq

variable {α : Type u}

/-! ## Cutting -/

/-- Cut a message into pieces of the given width; the rest that fits one
piece is the last. -/
def cut (width : Nat) (message : List α) : List (Piece α) :=
  if 0 < width ∧ width < message.length then
    ⟨message.take width, true⟩ :: cut width (message.drop width)
  else
    [⟨message, false⟩]
termination_by message.length
decreasing_by simp only [List.length_drop]; omega

/-- Cut a message whose first piece has a width of its own. -/
def cutFirst (first width : Nat) (message : List α) : List (Piece α) :=
  if first < message.length then
    ⟨message.take first, true⟩ :: cut width (message.drop first)
  else
    [⟨message, false⟩]

theorem cut_long {width : Nat} {message : List α} (positive : 0 < width)
    (long : width < message.length) :
    cut width message =
      ⟨message.take width, true⟩ :: cut width (message.drop width) := by
  rw [cut, if_pos ⟨positive, long⟩]

theorem cut_short {width : Nat} {message : List α}
    (short : message.length ≤ width) :
    cut width message = [⟨message, false⟩] := by
  rw [cut, if_neg (by omega)]

theorem cutFirst_long {first : Nat} (width : Nat) {message : List α}
    (long : first < message.length) :
    cutFirst first width message =
      ⟨message.take first, true⟩ :: cut width (message.drop first) :=
  if_pos long

theorem cutFirst_short {first : Nat} (width : Nat) {message : List α}
    (short : message.length ≤ first) :
    cutFirst first width message = [⟨message, false⟩] :=
  if_neg (by omega)

/-! ## Reassembling -/

/-- Take in one piece: the bytes held afterwards, and the message it
completes. -/
def absorb (limit : Nat) (held : List α) (piece : Piece α) :
    List α × Option (List α) :=
  if limit < (held ++ piece.body).length then ([], none)
  else if piece.more then (held ++ piece.body, none)
  else ([], some (held ++ piece.body))

/-- Take in pieces in order: the bytes held at the end, and all messages
completed on the way. -/
def assemble (limit : Nat) :
    List α → List (Piece α) → List α × List (List α)
  | held, [] => (held, [])
  | held, piece :: pieces =>
      ((assemble limit (absorb limit held piece).1 pieces).1,
        (absorb limit held piece).2.toList ++
          (assemble limit (absorb limit held piece).1 pieces).2)

/-- Every piece still fits with what is held when it arrives. -/
def Fits (limit : Nat) : List α → List (Piece α) → Prop
  | _, [] => True
  | held, piece :: pieces =>
      held.length + piece.body.length ≤ limit ∧
        Fits limit (absorb limit held piece).1 pieces

@[simp] theorem assemble_nil (limit : Nat) (held : List α) :
    assemble limit held [] = (held, []) := rfl

theorem assemble_cons (limit : Nat) (held : List α) (piece : Piece α)
    (pieces : List (Piece α)) :
    assemble limit held (piece :: pieces) =
      ((assemble limit (absorb limit held piece).1 pieces).1,
        (absorb limit held piece).2.toList ++
          (assemble limit (absorb limit held piece).1 pieces).2) := rfl

theorem absorb_more {limit : Nat} {held body : List α}
    (fits : held.length + body.length ≤ limit) :
    absorb limit held ⟨body, true⟩ = (held ++ body, none) := by
  simp [absorb, Nat.not_lt.mpr fits]

theorem absorb_last {limit : Nat} {held body : List α}
    (fits : held.length + body.length ≤ limit) :
    absorb limit held ⟨body, false⟩ = ([], some (held ++ body)) := by
  simp [absorb, Nat.not_lt.mpr fits]

theorem absorb_beyond {limit : Nat} {held : List α} {piece : Piece α}
    (beyond : limit < held.length + piece.body.length) :
    absorb limit held piece = ([], none) := by
  simp [absorb, beyond]

/-- After the last piece of a message nothing is held. -/
theorem absorb_of_not_more {limit : Nat} {held : List α} {piece : Piece α}
    (last : piece.more = false) : (absorb limit held piece).1 = [] := by
  unfold absorb
  rw [last]
  split <;> rfl

theorem assemble_append (limit : Nat) (held : List α)
    (first second : List (Piece α)) :
    assemble limit held (first ++ second) =
      ((assemble limit (assemble limit held first).1 second).1,
        (assemble limit held first).2 ++
          (assemble limit (assemble limit held first).1 second).2) := by
  induction first generalizing held with
  | nil => simp
  | cons piece pieces induction =>
      simp only [List.cons_append, assemble_cons, induction,
        List.append_assoc]

theorem fits_append (limit : Nat) (held : List α)
    (first second : List (Piece α)) :
    Fits limit held (first ++ second) ↔
      Fits limit held first ∧
        Fits limit (assemble limit held first).1 second := by
  induction first generalizing held with
  | nil => simp [Fits]
  | cons piece pieces induction =>
      simp only [List.cons_append, Fits, assemble_cons, induction,
        and_assoc]

theorem fits_singleton (limit : Nat) (held : List α) (piece : Piece α) :
    Fits limit held [piece] ↔
      held.length + piece.body.length ≤ limit := by
  simp [Fits]

/-- The length of the message left open by the pieces, when none is dropped:
what follows the last piece that ends a message. -/
def openLength : Nat → List (Piece α) → Nat
  | length, [] => length
  | length, piece :: pieces =>
      openLength (if piece.more then length + piece.body.length else 0) pieces

theorem length_assemble_of_fits {limit : Nat} {held : List α}
    {pieces : List (Piece α)} (fits : Fits limit held pieces) :
    (assemble limit held pieces).1.length =
      openLength held.length pieces := by
  induction pieces generalizing held with
  | nil => rfl
  | cons piece pieces induction =>
      obtain ⟨fitsHere, fitsLater⟩ := fits
      obtain ⟨body, more⟩ := piece
      rw [assemble_cons, induction fitsLater]
      cases more with
      | true => simp [openLength, absorb_more fitsHere]
      | false => simp [openLength, absorb_last fitsHere]

theorem length_assemble_le {limit : Nat} {held : List α}
    {pieces : List (Piece α)} (within : held.length ≤ limit) :
    (assemble limit held pieces).1.length ≤ limit := by
  induction pieces generalizing held with
  | nil => exact within
  | cons piece pieces induction =>
      rw [assemble_cons]
      apply induction
      unfold absorb
      split
      · exact Nat.zero_le _
      · next short =>
          split
          · exact Nat.le_of_not_lt short
          · exact Nat.zero_le _

/-- Taking in fewer pieces completes a prefix of the messages. -/
theorem assemble_prefix {limit : Nat} {held : List α}
    {first whole : List (Piece α)} (isPrefix : first <+: whole) :
    (assemble limit held first).2 <+: (assemble limit held whole).2 := by
  obtain ⟨rest, rfl⟩ := isPrefix
  rw [assemble_append]
  exact List.prefix_append _ _

/-! ## Messages given by their bodies -/

/-- The bodies of one message as pieces: all but the last announce more. -/
def marked : List (List α) → List (Piece α)
  | [] => []
  | [body] => [⟨body, false⟩]
  | body :: next :: bodies => ⟨body, true⟩ :: marked (next :: bodies)

/-- The bodies of a message whose last is still to come. -/
def announced (bodies : List (List α)) : List (Piece α) :=
  bodies.map fun body => ⟨body, true⟩

theorem marked_concat (bodies : List (List α)) (last : List α) :
    marked (bodies ++ [last]) = announced bodies ++ [⟨last, false⟩] := by
  induction bodies with
  | nil => rfl
  | cons body bodies induction =>
      cases bodies with
      | nil => rfl
      | cons next bodies =>
          rw [List.cons_append] at induction ⊢
          rw [List.cons_append, marked, induction]
          rfl

theorem assemble_announced {limit : Nat} {held : List α}
    {bodies : List (List α)} (fits : Fits limit held (announced bodies)) :
    assemble limit held (announced bodies) = (held ++ bodies.flatten, []) := by
  induction bodies generalizing held with
  | nil => simp [announced]
  | cons body bodies induction =>
      obtain ⟨fitsHere, fitsLater⟩ := fits
      have absorbed := absorb_more fitsHere
      rw [absorbed] at fitsLater
      rw [announced, List.map_cons, assemble_cons, absorbed]
      simp only [Option.toList_none, List.nil_append]
      rw [← announced, induction fitsLater]
      simp

/-- Nothing is completed before the last body of a message. -/
theorem assemble_initial {limit : Nat} {held : List α}
    {bodies : List (List α)} {taken : List (Piece α)}
    (isPrefix : taken <+: announced bodies) (fits : Fits limit held taken) :
    assemble limit held taken =
      (held ++ (bodies.take taken.length).flatten, []) := by
  have same : taken = announced (bodies.take taken.length) := by
    rw [announced, List.map_take]
    exact List.prefix_iff_eq_take.mp isPrefix
  rw [same] at fits
  exact (congrArg (assemble limit held) same).trans (assemble_announced fits)

/-- The bodies of a message which fit complete it. -/
theorem assemble_marked {limit : Nat} {held : List α}
    {bodies : List (List α)} (nonempty : bodies ≠ [])
    (fits : Fits limit held (marked bodies)) :
    assemble limit held (marked bodies) = ([], [held ++ bodies.flatten]) := by
  obtain ⟨earlier, last, rfl⟩ :=
    (List.eq_nil_or_concat' bodies).resolve_left nonempty
  rw [marked_concat] at fits ⊢
  obtain ⟨fitsEarlier, fitsLast⟩ := (fits_append _ _ _ _).mp fits
  have joined := assemble_announced fitsEarlier
  rw [joined, fits_singleton] at fitsLast
  rw [assemble_append, joined, assemble_cons, absorb_last fitsLast]
  simp

/-- Every message completed is within the limit. -/
theorem length_le_of_mem_assemble {limit : Nat} {held : List α}
    {pieces : List (Piece α)} :
    ∀ message ∈ (assemble limit held pieces).2, message.length ≤ limit := by
  induction pieces generalizing held with
  | nil => simp
  | cons piece pieces induction =>
      intro message member
      rw [assemble_cons] at member
      rcases List.mem_append.mp member with here | later
      · unfold absorb at here
        split at here
        · simp at here
        · next short =>
            split at here
            · simp at here
            · simp only [Option.toList_some, List.mem_singleton] at here
              rw [here]
              exact Nat.le_of_not_lt short
      · exact induction message later

/-- The first part of a stream of messages, as long as it fits, completes the
first of the messages. -/
theorem assemble_taken {limit : Nat} {groups : List (List (List α))}
    {opened : List (List α)} {taken rest : List (Piece α)}
    (nonempty : ∀ bodies ∈ groups, bodies ≠ [])
    (parts : taken ++ rest = groups.flatMap marked ++ announced opened)
    (fits : Fits limit [] taken) :
    ∃ count, (assemble limit [] taken).2 =
      (groups.take count).map List.flatten := by
  induction groups generalizing taken rest with
  | nil =>
      have isPrefix : taken <+: announced opened := ⟨rest, parts⟩
      exact ⟨0, (congrArg Prod.snd (assemble_initial isPrefix fits) :)⟩
  | cons bodies groups induction =>
      have here := nonempty bodies (by simp)
      have later := fun other member =>
        nonempty other (List.mem_cons_of_mem _ member)
      rw [List.flatMap_cons, List.append_assoc] at parts
      rcases List.append_eq_append_iff.mp parts with
        ⟨missing, whole, _⟩ | ⟨beyond, split, tail⟩
      · obtain ⟨earlier, last, rfl⟩ :=
          (List.eq_nil_or_concat' bodies).resolve_left here
        have isPrefix : taken <+: marked (earlier ++ [last]) :=
          ⟨missing, whole.symm⟩
        rw [marked_concat] at isPrefix
        rcases List.prefix_concat_iff.mp isPrefix with all | part
        · rw [← marked_concat] at all
          subst taken
          refine ⟨1, ?_⟩
          rw [assemble_marked here fits]
          simp
        · exact ⟨0, (congrArg Prod.snd (assemble_initial part fits) :)⟩
      · subst taken
        obtain ⟨fitsHere, fitsLater⟩ := (fits_append _ _ _ _).mp fits
        have completed := assemble_marked here fitsHere
        rw [completed] at fitsLater
        obtain ⟨count, counted⟩ := induction later tail.symm fitsLater
        refine ⟨count + 1, ?_⟩
        rw [assemble_append, completed, counted]
        simp

/-! ## Cutting and reassembling are inverse -/

/-- The pieces of a cut complete exactly the message they were cut from,
behind whatever was already held of it. -/
theorem assemble_cut {limit width : Nat} {held message : List α}
    (positive : 0 < width)
    (fits : held.length + message.length ≤ limit) :
    assemble limit held (cut width message) =
      ([], [held ++ message]) := by
  induction message using cut.induct width generalizing held with
  | case1 message long induction =>
      have length := congrArg List.length
        (List.take_append_drop width message)
      rw [List.length_append] at length
      rw [cut_long positive long.2, assemble_cons,
        absorb_more (by omega), induction (by
          rw [List.length_append]
          omega)]
      simp
  | case2 message short =>
      have fitsPiece : message.length ≤ width := by omega
      rw [cut_short fitsPiece, assemble_cons, absorb_last fits]
      simp

theorem assemble_cutFirst {limit first width : Nat} {message : List α}
    (positive : 0 < width) (fits : message.length ≤ limit) :
    assemble limit [] (cutFirst first width message) =
      ([], [message]) := by
  by_cases long : first < message.length
  · have length := congrArg List.length
      (List.take_append_drop first message)
    rw [List.length_append] at length
    have whole :=
      assemble_cut positive
        (by omega : (message.take first).length +
          (message.drop first).length ≤ limit)
    rw [cutFirst_long width long, assemble_cons,
      absorb_more (by simp only [List.length_nil]; omega)]
    simp [whole]
  · have short : message.length ≤ first := by omega
    rw [cutFirst_short width short, assemble_cons,
      absorb_last (by simpa using fits)]
    simp

/-- A stream of cut messages reassembles to the messages, in order. -/
theorem assemble_stream {limit first width : Nat}
    {messages : List (List α)} (positive : 0 < width)
    (fits : ∀ message ∈ messages, message.length ≤ limit) :
    assemble limit [] (messages.flatMap (cutFirst first width)) =
      ([], messages) := by
  induction messages with
  | nil => rfl
  | cons message messages induction =>
      have headFits := fits message (by simp)
      have tailFits : ∀ other ∈ messages, other.length ≤ limit := by
        intro other member
        exact fits other (by simp [member])
      rw [List.flatMap_cons, assemble_append,
        assemble_cutFirst positive headFits, induction tailFits]
      rfl

/-! ## The shape of a cut -/

theorem cut_ne_nil (width : Nat) (message : List α) :
    cut width message ≠ [] := by
  rw [cut]
  split <;> simp

/-- A cut is a number of full pieces and a last one, which is as long as the
remainder of the length, or full when the width divides the length. -/
theorem cut_eq_full_append (width : Nat) {message : List α}
    (positive : 0 < width) (nonempty : 0 < message.length) :
    ∃ full last, cut width message = full ++ [last] ∧
      (∀ piece ∈ full, piece.body.length = width) ∧
      last.body.length = (message.length - 1) % width + 1 := by
  induction message using cut.induct width with
  | case1 message long induction =>
      have rest : (message.drop width).length = message.length - width := by
        simp
      obtain ⟨full, last, split, fullLength, lastLength⟩ :=
        induction (by omega)
      refine ⟨⟨message.take width, true⟩ :: full, last, ?_, ?_, ?_⟩
      · rw [cut_long positive long.2, split, List.cons_append]
      · intro piece member
        rcases List.mem_cons.mp member with rfl | later
        · simp only [List.length_take]
          omega
        · exact fullLength piece later
      · have shift : message.length - 1 =
            message.length - width - 1 + width := by
          omega
        rw [lastLength, rest, shift, Nat.add_mod_right]
  | case2 message short =>
      have within : message.length ≤ width := by omega
      refine ⟨[], ⟨message, false⟩, cut_short within, by simp, ?_⟩
      rw [Nat.mod_eq_of_lt (by omega)]
      dsimp only
      omega

/-- A cut is a number of announced bodies, each as long as the width, and a
last one which is not empty; together they are the message. -/
theorem cut_eq_announced (width : Nat) (message : List α)
    (positive : 0 < width) (nonempty : 0 < message.length) :
    ∃ bodies last, cut width message = announced bodies ++ [⟨last, false⟩] ∧
      (∀ body ∈ bodies, body.length = width) ∧
      bodies.flatten ++ last = message ∧ last ≠ [] ∧
      last.length ≤ width ∧
      bodies.length = (message.length - 1) / width := by
  induction message using cut.induct width with
  | case1 message long induction =>
      have rest : (message.drop width).length = message.length - width := by
        simp
      obtain ⟨bodies, last, split, full, joined, lastNonempty, short, count⟩ :=
        induction (by omega)
      refine ⟨message.take width :: bodies, last, ?_, ?_, ?_, lastNonempty,
        short, ?_⟩
      · rw [cut_long positive long.2, split]
        rfl
      · intro body member
        rcases List.mem_cons.mp member with rfl | later
        · rw [List.length_take]
          omega
        · exact full body later
      · rw [List.flatten_cons, List.append_assoc, joined,
          List.take_append_drop]
      · have shift : message.length - 1 =
            message.length - width - 1 + width := by
          omega
        rw [List.length_cons, count, rest, shift,
          Nat.add_div_right _ positive]
  | case2 message short =>
      have within : message.length ≤ width := by omega
      refine ⟨[], message, cut_short within, by simp, rfl, ?_, within, ?_⟩
      · exact List.ne_nil_of_length_pos nonempty
      · rw [Nat.div_eq_of_lt (by omega)]
        rfl

/-- The same when the first piece has a width of its own. -/
theorem cutFirst_eq_announced (first width : Nat) (message : List α)
    (firstPositive : 0 < first) (positive : 0 < width)
    (nonempty : 0 < message.length) :
    ∃ bodies last,
      cutFirst first width message = announced bodies ++ [⟨last, false⟩] ∧
      (∀ body ∈ bodies.head?, body.length = first) ∧
      (∀ body ∈ bodies.tail, body.length = width) ∧
      (bodies ++ [last]).flatten = message ∧
      (∀ body ∈ bodies ++ [last], body ≠ []) ∧
      bodies.length =
        if message.length ≤ first then 0
        else 1 + (message.length - first - 1) / width := by
  by_cases long : first < message.length
  · have rest : (message.drop first).length = message.length - first := by
      simp
    obtain ⟨bodies, last, split, full, joined, lastNonempty, _, count⟩ :=
      cut_eq_announced width (message.drop first) positive (by omega)
    have headLength : (message.take first).length = first := by
      rw [List.length_take]
      omega
    refine ⟨message.take first :: bodies, last, ?_, ?_, full, ?_, ?_, ?_⟩
    · rw [cutFirst_long width long, split]
      rfl
    · intro body isHead
      rw [List.head?_cons, Option.mem_some_iff] at isHead
      rw [← isHead, headLength]
    · rw [List.cons_append, List.flatten_cons, List.flatten_append,
        List.flatten_singleton, joined, List.take_append_drop]
    · intro body member
      rcases List.mem_append.mp member with early | isLast
      · rcases List.mem_cons.mp early with rfl | later
        · exact List.ne_nil_of_length_pos (by omega)
        · exact List.ne_nil_of_length_pos (by rw [full body later]; omega)
      · rwa [List.mem_singleton.mp isLast]
    · rw [if_neg (by omega), List.length_cons, count, rest]
      omega
  · have short : message.length ≤ first := by omega
    refine ⟨[], message, cutFirst_short width short, by simp, by simp,
      by simp, ?_, ?_⟩
    · intro body member
      rw [List.nil_append, List.mem_singleton] at member
      rw [member]
      exact List.ne_nil_of_length_pos nonempty
    · rw [if_pos short]
      rfl

end Stitching
