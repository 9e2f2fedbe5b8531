import Expectation.Regex.Reading

/-!
# How large a program can get

The size of a program is counted state by state, and states of sets are shared by what stands in
a table.  Sharing only saves: a set takes at most a state and its links for each byte range,
whatever the table holds, and what a shape adds is bounded by what its parts add.  `Shape.room`
adds that up, so a pattern can be shown to fit without counting its program.

## Main results

* `setGrowth_atMost`: what a set adds.
* `growth_atMost`: what a shape adds.
* `fits_of_room_le`: a shape with little room fits.
* `exists_ofPattern`: a pattern that fits is accepted.
-/

namespace Expectation.Regex

/-! ## Bounds on what a part adds -/

theorem Tally.size_add (t : Tally) (states bytes : Nat) :
    (t.add states bytes).size = t.size + (32 * states + bytes) := by
  simp only [add, size]
  omega

/-- The part adds at most so many bytes. -/
def Growth.AtMost (g : Growth) (n : Nat) : Prop :=
  ∀ t, (g.apply t).size ≤ t.size + n

namespace Growth.AtMost

variable {g h : Growth} {m n : Nat}

theorem const (states bytes : Nat) : (Growth.const states bytes).AtMost (32 * states + bytes) :=
  fun t => Nat.le_of_eq (t.size_add states bytes)

theorem andThen (hg : g.AtMost m) (hh : h.AtMost n) : (g.andThen h).AtMost (m + n) := by
  intro t
  have hfirst := hg t
  have hsecond := hh (g.apply t)
  show (h.apply (g.apply t)).size ≤ t.size + (m + n)
  omega

theorem mono (hg : g.AtMost m) (hmn : m ≤ n) : g.AtMost n :=
  fun t => Nat.le_trans (hg t) (by omega)

theorem times (hg : g.AtMost m) (k : Nat) : (g.times k).AtMost (k * m) := by
  intro t
  show (g.applyTimes k t).size ≤ t.size + k * m
  induction k generalizing t with
  | zero => exact Nat.le_add_right _ _
  | succ k ih =>
      rw [applyTimes, Nat.succ_mul]
      split
      · omega
      · have hone := hg t
        have hrest := ih (g.apply t)
        omega

end Growth.AtMost

/-! ## Sets -/

/-- What the entries of a list cost together. -/
def total {α : Type} (cost : α → Nat) : List α → Nat
  | [] => 0
  | a :: l => cost a + total cost l

/-- A fold adds what its steps add. -/
theorem measure_foldl_le {σ α : Type} (measure : σ → Nat) (cost : α → Nat) {step : σ → α → σ}
    (h : ∀ x a, measure (step x a) ≤ measure x + cost a) (l : List α) (x : σ) :
    measure (l.foldl step x) ≤ measure x + total cost l := by
  induction l generalizing x with
  | nil => exact Nat.le_refl _
  | cons a l ih =>
      have hstep := h x a
      have hrest := ih (step x a)
      rw [List.foldl_cons, total]
      omega

/-- Forty bytes for each byte range: for a state and a link. -/
def sequencesRoom (sequences : List (List ByteRange)) : Nat :=
  total (fun ranges => 40 * ranges.length) sequences

section Sets

variable {sequences : List (List ByteRange)}

theorem sequencesRoom_nil : sequencesRoom [] = 0 := rfl

theorem sequencesRoom_cons (ranges : List ByteRange) :
    sequencesRoom (ranges :: sequences) = 40 * ranges.length + sequencesRoom sequences := rfl

theorem Sharing.size_state_le (s : Sharing) (tableSize : UInt64) (key : Array Nat) (bytes : Nat) :
    (s.state tableSize key bytes).2.tally.size ≤ s.tally.size + (32 + bytes) := by
  have hfresh : ∀ place, (s.fresh place key bytes).2.tally.size ≤ s.tally.size + (32 + bytes) :=
    fun _ => Nat.le_of_eq (s.tally.size_add 1 bytes)
  unfold state
  dsimp only
  split
  · split
    · exact Nat.le_add_right _ _
    · exact hfresh _
  · exact hfresh _

/-- Each group takes a byte range off the sequences in it. -/
theorem sequencesRoom_groupByFirst_le (sequences : List (List ByteRange)) :
    40 * (groupByFirst sequences).length + total (fun g => sequencesRoom g.2)
      (groupByFirst sequences) ≤ sequencesRoom sequences := by
  induction sequences with
  | nil => exact Nat.le_refl 0
  | cons ranges rest ih =>
      rw [sequencesRoom_cons]
      cases ranges with
      | nil => simpa [groupByFirst] using ih
      | cons r tail =>
          rw [groupByFirst]
          split
          · simp only [total, List.length_cons, List.length_nil, sequencesRoom_cons,
              sequencesRoom_nil]
            omega
          · next hgroups =>
            simp only [hgroups, total, List.length_cons] at ih
            split
            · simp only [total, List.length_cons, sequencesRoom_cons]
              omega
            · simp only [total, List.length_cons, sequencesRoom_cons, sequencesRoom_nil]
              omega

/-- **Going forward, a set takes at most a state and a link for each byte range.** -/
theorem size_forwardState_le (target depth : Nat) (sequences : List (List ByteRange))
    (s : Sharing) : (forwardState target depth sequences s).2.tally.size ≤
      s.tally.size + sequencesRoom sequences := by
  induction depth generalizing sequences s with
  | zero => simp [forwardState]
  | succ depth ih =>
      rw [forwardState]
      split
      · exact Nat.le_add_right _ _
      · next hgroups =>
        -- the state pays with the byte ranges that its groups take off the sequences
        have hroom := sequencesRoom_groupByFirst_le sequences
        have hpos : 0 < (groupByFirst sequences).length :=
          List.length_pos_iff.mpr fun h => hgroups h
        have hlinks : 32 + rangeLinkSize * (groupByFirst sequences).length ≤
            40 * (groupByFirst sequences).length := by
          rw [rangeLinkSize]
          omega
        refine Nat.le_trans (Nat.le_trans (Sharing.size_state_le _ _ _ _) (Nat.add_le_add
          (measure_foldl_le (fun x : Array Nat × Sharing => x.2.tally.size)
            (fun g => sequencesRoom g.2) ?_ (groupByFirst sequences) (#[], s)) hlinks)) ?_
        · rintro ⟨key, s⟩ ⟨range, tails⟩
          exact ih tails s
        · dsimp only
          omega

theorem size_backwardState_le (next : Nat) (ranges : List ByteRange) (s : Sharing) :
    (backwardState next ranges s).2.tally.size ≤ s.tally.size + 32 * ranges.length := by
  have hcost : total (fun _ => 32) ranges = 32 * ranges.length := by
    induction ranges with
    | nil => rfl
    | cons range ranges ih => rw [total, ih, List.length_cons]; omega
  rw [backwardState, ← hcost]
  refine measure_foldl_le (fun x : Nat × Sharing => x.2.tally.size) _ ?_ ranges (next, s)
  rintro ⟨next, s⟩ range
  exact s.size_state_le _ _ _

/-- The room that a set takes. -/
def setRoom (ranges : List (Nat × Nat)) : Nat :=
  let sequences := byteSequences ranges
  64 + rangeLinkSize * ranges.length + linkSize * sequences.length + sequencesRoom sequences

/-- **What a set adds** in either direction. -/
theorem setGrowth_atMost (backward : Bool) (ranges : List (Nat × Nat)) :
    (setGrowth backward ranges).AtMost (setRoom ranges) := by
  rw [setGrowth, setRoom]
  split
  · exact (Growth.AtMost.const _ _).mono (by omega)
  · intro t
    dsimp only
    split
    · refine Nat.le_trans (measure_foldl_le (fun s : Sharing => s.tally.size)
        (fun ranges => 40 * ranges.length) ?_ _ _) ?_
      · intro s ranges
        exact Nat.le_trans (size_backwardState_le _ ranges s) (by omega)
      · rw [Tally.size_add, sequencesRoom]
        omega
    · refine Nat.le_trans (size_forwardState_le _ _ _ _) ?_
      rw [Tally.size_add]
      omega

end Sets

/-! ## Shapes -/

namespace Shape

mutual

/-- The room that a shape takes in the program of a direction. -/
def room (backward : Bool) : Shape → Nat
  | .empty | .look _ => 32
  | .literal text => 32 * text.foldr (fun c n => c.utf8Size + n) 0
  | .set ranges => setRoom ranges
  | .rep least most _ body =>
    max least (most.getD 0) * (room backward body + 40) + room backward body + 152
  | .group body => room backward body + 64
  | .seq parts => roomAll backward parts
  | .alt branches =>
    match branches.mapM text? with
    | some texts => ((choiceGrowth backward texts).apply ⟨0, 0⟩).size
    | none => roomAll backward branches + 68 * branches.length

/-- The room that several shapes take. -/
def roomAll (backward : Bool) : List Shape → Nat
  | [] => 0
  | s :: ss => room backward s + roomAll backward ss

end

theorem choiceGrowth_atMost (backward : Bool) (texts : List (List Char)) :
    (choiceGrowth backward texts).AtMost ((choiceGrowth backward texts).apply ⟨0, 0⟩).size := by
  have hconst : ∀ states bytes, (Growth.const states bytes).AtMost
      ((Growth.const states bytes).apply ⟨0, 0⟩).size :=
    fun states bytes => (Growth.AtMost.const states bytes).mono
      (by rw [Growth.const, Tally.size_add]; exact Nat.le_add_left _ _)
  exact hconst _ _

theorem repetitionGrowth_atMost {body : Growth} {n : Nat} (h : body.AtMost n) (least : Nat)
    (most : Option Nat) (takesSome : Bool) : (repetitionGrowth least most body takesSome).AtMost
      (max least (most.getD 0) * (n + 40) + n + 152) := by
  have hstate : (Growth.const 1 0).AtMost 32 := .const 1 0
  have hlinks : (Growth.const 0 (2 * linkSize)).AtMost 8 := .const 0 8
  have hleast : least * n ≤ least * (n + 40) := Nat.mul_le_mul_left least (Nat.le_add_right n 40)
  unfold repetitionGrowth
  dsimp only
  split
  · exact (((hstate.andThen h).andThen hstate).andThen hlinks).mono (by omega)
  · split
    · exact ((hstate.andThen h).andThen hlinks).mono (by omega)
    · exact (h.andThen (.const 3 16)).mono (by omega)
  · refine (((h.times least).andThen hstate).andThen hlinks).mono ?_
    rw [Option.getD_none, Nat.max_zero]
    omega
  · next _ _ most _ =>
    have hneeded :
        (if least = 0 then .const 1 0 else body.times least).AtMost (least * n + 32) := by
      split
      · exact hstate.mono (by omega)
      · exact (h.times least).mono (by omega)
    rw [Option.getD_some]
    split
    · next hmost =>
      rw [Nat.max_eq_left hmost]
      exact hneeded.mono (by omega)
    · next hmost =>
      have hmore := ((hstate.andThen h).andThen hlinks).times (most - least)
      have hsplit : most * (n + 40) = least * (n + 40) + (most - least) * (n + 40) := by
        rw [← Nat.add_mul, Nat.add_sub_cancel' (by omega)]
      have hsum : 32 + n + 8 = n + 40 := by omega
      rw [hsum] at hmore
      rw [Nat.max_eq_right (by omega), hsplit]
      exact ((hneeded.andThen hstate).andThen hmore).mono (by omega)

mutual

/-- **What a shape adds.** -/
theorem growth_atMost (backward : Bool) : ∀ s : Shape, (s.growth backward).AtMost (s.room backward)
  | .empty => .const 1 0
  | .look _ => .const 1 0
  | .literal text => .const _ 0
  | .set ranges => setGrowth_atMost backward ranges
  | .rep least most _ body => repetitionGrowth_atMost (growth_atMost backward body) _ _ _
  | .group body => by
      rw [growth, room]
      cases backward with
      | true => exact (growth_atMost true body).mono (by omega)
      | false =>
          have hstate : (Growth.const 1 0).AtMost 32 := Growth.AtMost.const 1 0
          exact ((hstate.andThen (growth_atMost false body)).andThen hstate).mono (by omega)
  | .seq parts => sequenceGrowth_atMost backward parts
  | .alt branches => by
      rw [growth, room]
      cases branches.mapM text? with
      | some texts => exact choiceGrowth_atMost backward texts
      | none =>
          exact ((branchesGrowth_atMost backward 0 branches).andThen (.const 0 _)).mono
            (by simp only [linkSize]; omega)

theorem sequenceGrowth_atMost (backward : Bool) : ∀ ss : List Shape,
    (sequenceGrowth backward ss).AtMost (roomAll backward ss)
  | [] => .const 0 0
  | s :: ss => by
      have hfirst := growth_atMost backward s
      have hothers := sequenceGrowth_atMost backward ss
      rw [sequenceGrowth, roomAll]
      cases backward with
      | true => exact (hothers.andThen hfirst).mono (by omega)
      | false => exact hfirst.andThen hothers

theorem branchesGrowth_atMost (backward : Bool) (before : Nat) : ∀ ss : List Shape,
    (branchesGrowth backward before ss).AtMost (roomAll backward ss + 64 * ss.length)
  | [] => .const 0 0
  | s :: ss => by
      have hfirst := growth_atMost backward s
      have hothers := branchesGrowth_atMost backward (before + 1) ss
      rw [branchesGrowth, roomAll, List.length_cons]
      split
      · exact ((hfirst.andThen (.const 2 0)).andThen hothers).mono (by omega)
      · exact (hfirst.andThen hothers).mono (by omega)

end

/-- **A shape with little room fits**: what a program has beside it takes no more than 208
bytes. -/
theorem fits_of_room_le {s : Shape} (h : ∀ backward, s.room backward + 208 ≤ Tally.limit) :
    s.fits = true := by
  have hsize : ∀ backward, s.programSize backward ≤ Tally.limit := by
    intro backward
    have hroom := h backward
    have hbody := growth_atMost backward s
    unfold programSize
    dsimp only
    generalize hstart : (if s.isAnchored backward then (⟨1, 0⟩ : Tally)
      else ⟨3, rangeLinkSize + 2 * linkSize⟩) = start
    have hle : start.size ≤ 112 := by
      rw [← hstart]
      split <;> decide
    cases backward with
    | true =>
        have happly := hbody start
        rw [if_pos rfl, Tally.size_add]
        omega
    | false =>
        have happly := hbody (start.add 1 0)
        rw [Tally.size_add] at happly
        rw [if_neg Bool.false_ne_true, Tally.size_add]
        omega
  rw [fits, decide_eq_true (hsize false), decide_eq_true (hsize true)]
  exact Bool.or_true _

end Shape

/-! ## Patterns that are accepted -/

/-- The ranges of a set that is given by ascending ones need not be sorted. -/
theorem setPiece_of_ascending {s : CharSet} (depth : Nat)
    (h : (s.spans.flatMap Unicode.scalarPart).Pairwise fun r t => decide (r.1 ≤ t.1) = true) :
    setPiece depth s = ⟨.one s.accepts, depth,
      .ofRanges (Unicode.joinRanges (s.spans.flatMap Unicode.scalarPart))⟩ := by
  rw [setPiece, CharSet.ranges, Unicode.normalRanges, List.mergeSort_of_pairwise h]

/-- A pattern without alternatives of its own is accepted if it can be read, is not too deep, and
fits. -/
theorem exists_ofPattern {pattern : String} (items : List Item) {flags : Flags}
    (hread : readParts pattern.toList.length {} pattern.toList = some { items, flags })
    (hdepth : (joinItems items).depth ≤ depthLimit) (hfits : (joinItems items).shape.fits = true) :
    ∃ r, ofPattern pattern = .ok r := by
  refine ⟨(joinItems items).regex, ?_⟩
  rw [ofPattern, hread]
  simp [joinBranches, hdepth, hfits]

end Expectation.Regex
