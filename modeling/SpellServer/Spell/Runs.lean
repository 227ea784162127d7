import SpellServer.Spell.Tokenize

/-!
# The runs of a text and the slices taken of them

The matches of `\S+` are the maximal runs without whitespace.  Of each run a
slice is taken whose end is an offset into what is left behind its start; where
nothing is left, the end falls back to the start itself and is counted twice.
-/

namespace SpellServer

open Library

/-! ## Maximal runs -/

/-- A run without whitespace that cannot be extended on either side. -/
structure MaximalRun (text front raw back : List Char) : Prop where
  parts : text = front ++ (raw ++ back)
  nonempty : raw ≠ []
  solid : ∀ c ∈ raw, isWhiteSpace c = false
  left : ∀ c ∈ front.getLast?, isWhiteSpace c = true
  right : ∀ c ∈ back.head?, isWhiteSpace c = true

namespace MaximalRun

variable {text held front raw back : List Char}

/-- A text without whitespace is its only run. -/
theorem eq_of_solid (run : MaximalRun text front raw back)
    (solid : ∀ c ∈ text, isWhiteSpace c = false) : front = [] ∧ back = [] ∧ raw = text := by
  have noFront : front = [] := by
    by_contra given
    have last := run.left _ (List.getLast?_eq_some_getLast given)
    rw [solid _ (run.parts ▸ List.mem_append_left _ (List.getLast_mem given))] at last
    cases last
  have noBack : back = [] := by
    by_contra given
    have first := run.right _ (List.head?_eq_some_head given)
    rw [solid _ (run.parts ▸ List.mem_append_right _ (List.mem_append_right _
      (List.head_mem given)))] at first
    cases first
  refine ⟨noFront, noBack, ?_⟩
  rw [run.parts, noFront, noBack, List.nil_append, List.append_nil]

theorem of_solid (given : held ≠ []) (solid : ∀ c ∈ held, isWhiteSpace c = false)
    (right : ∀ c ∈ back.head?, isWhiteSpace c = true) :
    MaximalRun (held ++ back) [] held back :=
  ⟨rfl, given, solid, fun _ absent => absurd absent (by simp), right⟩

/-- A run behind whitespace. -/
theorem behind (run : MaximalRun text front raw back) {c : Char} (white : isWhiteSpace c = true) :
    MaximalRun (held ++ c :: text) (held ++ c :: front) raw back := by
  refine ⟨?_, run.nonempty, run.solid, ?_, run.right⟩
  · rw [run.parts, List.append_assoc, List.cons_append]
  · intro last found
    rw [List.getLast?_append_cons] at found
    cases front with
    | nil =>
        cases found
        exact white
    | cons first rest =>
        apply run.left
        rw [List.getLast?_cons_cons] at found
        exact found

/-- A run stands before a whitespace character or behind it. -/
theorem split {c : Char} (run : MaximalRun (held ++ c :: text) front raw back)
    (solid : ∀ c ∈ held, isWhiteSpace c = false) (white : isWhiteSpace c = true) :
    front = [] ∧ raw = held ∨
      ∃ later, front = held ++ c :: later ∧ MaximalRun text later raw back := by
  rcases List.append_eq_append_iff.mp run.parts with
    ⟨between, frontParts, rest⟩ | ⟨between, heldParts, rest⟩
  · cases between with
    | nil =>
        obtain ⟨first, tail, raws⟩ := List.exists_cons_of_ne_nil run.nonempty
        rw [raws, List.nil_append, List.cons_append] at rest
        have same := (List.cons.inj rest).1
        have clear := run.solid c (by rw [raws, same]; exact List.mem_cons_self)
        rw [white] at clear
        cases clear
    | cons first tail =>
        obtain ⟨rfl, tailParts⟩ := List.cons.inj rest
        refine Or.inr ⟨tail, frontParts, tailParts, run.nonempty, run.solid, ?_, run.right⟩
        intro last found
        apply run.left
        rw [frontParts, List.getLast?_append_cons]
        cases tail with
        | nil => cases found
        | cons next others => exact (List.getLast?_cons_cons ..).trans found
  · have noFront : front = [] := by
      by_contra given
      have last := run.left _ (List.getLast?_eq_some_getLast given)
      rw [solid _ (heldParts ▸ List.mem_append_left _ (List.getLast_mem given))] at last
      cases last
    refine Or.inl ⟨noFront, ?_⟩
    rw [noFront, List.nil_append] at heldParts
    subst heldParts
    rcases List.append_eq_append_iff.mp rest with
      ⟨extra, heldMore, backParts⟩ | ⟨extra, rawMore, tailParts⟩
    · cases extra with
      | nil => exact (heldMore.trans (List.append_nil raw)).symm
      | cons next others =>
          have white := run.right next (by rw [backParts]; rfl)
          rw [solid next (heldMore ▸ List.mem_append_right _ List.mem_cons_self)] at white
          cases white
    · cases extra with
      | nil => exact rawMore.trans (List.append_nil _)
      | cons next others =>
          obtain ⟨same, _⟩ := List.cons.inj tailParts
          have clear := run.solid next (rawMore ▸ List.mem_append_right _ List.mem_cons_self)
          rw [← same, white] at clear
          cases clear

end MaximalRun

/-- The characters of the match the scan is in. -/
def heldOf (current : Option Match) : List Char := (current.map Match.raw).getD []

/-- The match stands behind `front`, counted from a given position. -/
structure Match.Placed (mat : Match) (byte char : ℕ) (front : List Char) : Prop where
  start : mat.start = byte + byteLength front
  stop : mat.stop = byte + byteLength front + byteLength mat.raw
  startChar : mat.startChar = char + front.length

theorem Match.Placed.unique {one two : Match} {start startChar : ℕ} {front : List Char}
    (first : one.Placed start startChar front) (second : two.Placed start startChar front)
    (same : one.raw = two.raw) : one = two := by
  obtain ⟨oneStart, oneStop, oneChar⟩ := first
  obtain ⟨twoStart, twoStop, twoChar⟩ := second
  cases one
  cases two
  dsimp only at *
  subst same oneStart oneStop oneChar twoStart twoStop twoChar
  rfl

/-- The front of a match behind a whitespace character, seen from there and from before. -/
theorem Match.Placed.behind_iff {mat : Match} {start startChar : ℕ} {held front : List Char}
    {c : Char} :
    mat.Placed (start + byteLength held + c.utf8Size) (startChar + held.length + 1) front ↔
      mat.Placed start startChar (held ++ c :: front) := by
  have bytes : start + byteLength (held ++ c :: front) =
      start + byteLength held + c.utf8Size + byteLength front := by
    rw [byteLength_append, byteLength_cons]
    omega
  have chars : startChar + (held ++ c :: front).length =
      startChar + held.length + 1 + front.length := by
    rw [List.length_append, List.length_cons]
    omega
  constructor
  · intro place
    exact ⟨bytes ▸ place.start, bytes ▸ place.stop, chars ▸ place.startChar⟩
  · intro place
    exact ⟨bytes ▸ place.start, bytes ▸ place.stop, chars ▸ place.startChar⟩

/-- A solid character joins the match the scan is in, or begins one. -/
theorem findIter_cons_solid {start startChar : ℕ} {current : Option Match} {c : Char}
    {text : List Char} (placed : ∀ begun ∈ current, begun.Placed start startChar [])
    (clear : ¬(isWhiteSpace c = true)) :
    findIter (start + byteLength (heldOf current)) (startChar + (heldOf current).length) current
        (c :: text) =
      findIter (start + byteLength (heldOf current) + c.utf8Size)
        (startChar + (heldOf current).length + 1)
        (some
          { raw := heldOf current ++ [c]
            start
            stop := start + byteLength (heldOf current) + c.utf8Size
            startChar }) text := by
  conv_lhs => unfold findIter
  rw [if_neg clear]
  cases current with
  | none => rfl
  | some current =>
      obtain ⟨startPlace, _, charPlace⟩ := placed current rfl
      cases current
      dsimp only at startPlace charPlace
      subst startPlace charPlace
      rfl

/-- The matches are the maximal runs, each in its place. -/
theorem mem_findIter_iff {start startChar : ℕ} {current : Option Match} {text : List Char}
    {mat : Match} (given : ∀ begun ∈ current, begun.raw ≠ [])
    (placed : ∀ begun ∈ current, begun.Placed start startChar [])
    (solid : ∀ c ∈ heldOf current, isWhiteSpace c = false) :
    mat ∈ findIter (start + byteLength (heldOf current)) (startChar + (heldOf current).length)
        current text ↔
      ∃ front back, MaximalRun (heldOf current ++ text) front mat.raw back ∧
        mat.Placed start startChar front := by
  induction text generalizing start startChar current with
  | nil =>
      rw [List.append_nil]
      cases current with
      | none =>
          constructor
          · intro member
            cases member
          · intro present
            obtain ⟨front, back, run, _⟩ := present
            have none := run.parts
            simp [heldOf, run.nonempty] at none
      | some current =>
          constructor
          · intro member
            cases List.mem_singleton.mp member
            have run : MaximalRun (mat.raw ++ []) [] mat.raw [] :=
              MaximalRun.of_solid (given mat rfl) solid (by simp)
            rw [List.append_nil] at run
            exact ⟨[], [], run, placed mat rfl⟩
          · intro present
            obtain ⟨front, back, run, place⟩ := present
            obtain ⟨rfl, _, same⟩ := run.eq_of_solid solid
            rw [place.unique (placed current rfl) same]
            exact List.mem_singleton.mpr rfl
  | cons c text induction =>
      by_cases white : isWhiteSpace c = true
      · unfold findIter
        rw [if_pos white]
        have later := @induction (start + byteLength (heldOf current) + c.utf8Size)
          (startChar + (heldOf current).length + 1) none (fun _ absent => by cases absent)
          (fun _ absent => by cases absent) (fun _ absent => by cases absent)
        simp only [heldOf, Option.map_none, Option.getD_none, byteLength_nil, List.length_nil,
          Nat.add_zero, List.nil_append] at later
        constructor
        · intro member
          rcases List.mem_append.mp member with ended | after
          · cases current with
            | none => cases ended
            | some current =>
                cases List.mem_singleton.mp ended
                refine ⟨[], c :: text, MaximalRun.of_solid (given mat rfl) solid ?_, placed mat rfl⟩
                intro first found
                cases found
                exact white
          · obtain ⟨front, back, run, place⟩ := later.mp after
            exact ⟨_, back, run.behind white, Match.Placed.behind_iff.mp place⟩
        · intro present
          obtain ⟨front, back, run, place⟩ := present
          rcases run.split solid white with ⟨rfl, same⟩ | ⟨before, rfl, behind⟩
          · cases current with
            | none => exact absurd same run.nonempty
            | some current =>
                rw [place.unique (placed current rfl) same]
                exact List.mem_append_left _ (List.mem_singleton.mpr rfl)
          · have found := later.mpr ⟨before, back, behind, Match.Placed.behind_iff.mpr place⟩
            exact List.mem_append_right _ found
      · have clear : isWhiteSpace c = false := Bool.eq_false_iff.mpr white
        have next := @induction start startChar
          (some
            { raw := heldOf current ++ [c]
              start
              stop := start + byteLength (heldOf current) + c.utf8Size
              startChar })
          (fun _ same => by cases same; simp) ?_ ?_
        · rw [findIter_cons_solid placed white]
          change mat ∈ findIter (start + byteLength (heldOf current ++ [c]))
            (startChar + (heldOf current ++ [c]).length) _ text ↔
              ∃ front back, MaximalRun (heldOf current ++ [c] ++ text) front mat.raw back ∧
                mat.Placed start startChar front at next
          rw [byteLength_append, byteLength_cons, byteLength_nil, List.length_append,
            List.length_singleton, List.append_assoc, Nat.add_zero, ← Nat.add_assoc,
            ← Nat.add_assoc] at next
          exact next
        · intro other same
          cases same
          refine ⟨rfl, ?_, rfl⟩
          rw [byteLength_append]
          simp [Nat.add_assoc]
        · intro d member
          rcases List.mem_append.mp member with old | new
          · exact solid d old
          · rw [List.mem_singleton.mp new]
            exact clear

theorem mem_matches_iff {text : List Char} {mat : Match} :
    mat ∈ findIter 0 0 none text ↔
      ∃ front back, MaximalRun text front mat.raw back ∧ mat.Placed 0 0 front :=
  @mem_findIter_iff 0 0 none text mat (fun _ absent => by cases absent)
    (fun _ absent => by cases absent) fun _ absent => by cases absent

/-- The matches of a text are its maximal runs. -/
theorem exists_match_iff {text raw : List Char} :
    (∃ mat ∈ findIter 0 0 none text, mat.raw = raw) ↔
      ∃ front back, MaximalRun text front raw back := by
  constructor
  · intro found
    obtain ⟨mat, member, rfl⟩ := found
    obtain ⟨front, back, run, _⟩ := mem_matches_iff.mp member
    exact ⟨front, back, run⟩
  · intro found
    obtain ⟨front, back, run⟩ := found
    exact ⟨{ raw
             start := 0 + byteLength front
             stop := 0 + byteLength front + byteLength raw
             startChar := 0 + front.length },
      mem_matches_iff.mpr ⟨front, back, run, rfl, rfl, rfl⟩, rfl⟩

/-! ## The slice of a run -/

/-- `start` in `strip_surrounding_punctuation`. -/
def sliceStart (s : List Char) : ℕ := byteLength (s.takeWhile isPunctuation)

/-- `start + end`. -/
def sliceStop (s : List Char) : ℕ :=
  let rest := s.dropWhile isPunctuation
  sliceStart s +
    if rest.all isPunctuation then sliceStart s else byteLength (rest.rdropWhile isPunctuation)

theorem stripSurroundingPunctuation_slice (s : List Char) :
    stripSurroundingPunctuation s = slice s (sliceStart s) (sliceStop s) := rfl

structure SliceInBounds (s : List Char) : Prop where
  ordered : sliceStart s ≤ sliceStop s
  within : sliceStop s ≤ byteLength s
  startBoundary : OnBoundary s (sliceStart s)
  stopBoundary : OnBoundary s (sliceStop s)

/-- Both ends of the slice are good exactly when something is left to keep. -/
theorem sliceInBounds_iff {s : List Char} (given : s ≠ []) :
    SliceInBounds s ↔ ¬(s.all isPunctuation = true) := by
  constructor
  · intro bounds all
    have taken : s.takeWhile isPunctuation = s :=
      List.takeWhile_eq_self_iff.mpr (List.all_eq_true.mp all)
    have left : s.dropWhile isPunctuation = [] :=
      List.dropWhile_eq_nil_iff.mpr (List.all_eq_true.mp all)
    have within := bounds.within
    simp only [sliceStop, sliceStart, taken, left, List.all_nil, if_true] at within
    have positive := mt byteLength_eq_zero_iff.mp given
    omega
  · intro mixed
    have remains : ¬((s.dropWhile isPunctuation).all isPunctuation = true) := by
      intro all
      apply mixed
      rw [← s.takeWhile_append_dropWhile (p := isPunctuation), List.all_append, all,
        List.all_takeWhile]
      rfl
    let kept := (s.dropWhile isPunctuation).rdropWhile isPunctuation
    have parts : s = s.takeWhile isPunctuation ++
        (kept ++ (s.dropWhile isPunctuation).rtakeWhile isPunctuation) := by
      rw [List.rdropWhile_append_rtakeWhile, List.takeWhile_append_dropWhile]
    have stop : sliceStop s = byteLength (s.takeWhile isPunctuation) + byteLength kept := by
      rw [sliceStop, if_neg remains]
      rfl
    have cut : s = (s.takeWhile isPunctuation ++ kept) ++
        (s.dropWhile isPunctuation).rtakeWhile isPunctuation := by
      rw [List.append_assoc]
      exact parts
    refine ⟨?_, ?_, ⟨_, _, parts, rfl⟩, ⟨_, _, cut, ?_⟩⟩
    · rw [stop]
      exact Nat.le_add_right _ _
    · have whole := congrArg byteLength parts
      rw [byteLength_append, byteLength_append] at whole
      omega
    · rw [stop, byteLength_append]

/-! ## Tokenization -/

/-- What tokenization promises about a text. -/
structure TokenizesInBounds (text : String) : Prop where
  returns : ∃ tokens, tokenize text = some tokens
  inBounds : ∀ front raw back, MaximalRun text.toList front raw back → SliceInBounds raw
  silent : ∀ front raw back, MaximalRun text.toList front raw back →
    raw.all isPunctuation = true → stripSurroundingPunctuation raw = some []

theorem hasPunctuationRun_iff (text : String) :
    HasPunctuationRun text ↔ ∃ front raw back,
      MaximalRun text.toList front raw back ∧ raw.all isPunctuation = true := by
  constructor
  · intro runs
    obtain ⟨mat, member, all⟩ := runs
    obtain ⟨front, back, run⟩ := exists_match_iff.mp ⟨mat, member, rfl⟩
    exact ⟨front, mat.raw, back, run, all⟩
  · intro runs
    obtain ⟨front, raw, back, run, all⟩ := runs
    obtain ⟨mat, member, rfl⟩ := exists_match_iff.mpr ⟨front, back, run⟩
    exact ⟨mat, member, all⟩

theorem tokenizes_in_bounds_iff (text : String) :
    TokenizesInBounds text ↔ ¬∃ front raw back,
      MaximalRun text.toList front raw back ∧ raw.all isPunctuation = true := by
  rw [← hasPunctuationRun_iff, ← tokenize_eq_none_iff]
  constructor
  · intro promised
    obtain ⟨tokens, returned⟩ := promised.returns
    rw [returned]
    exact Option.some_ne_none tokens
  · intro returns
    have mixed : ∀ front raw back, MaximalRun text.toList front raw back →
        ¬(raw.all isPunctuation = true) := by
      intro front raw back run all
      exact returns ((tokenize_eq_none_iff text).mpr
        ((hasPunctuationRun_iff text).mpr ⟨front, raw, back, run, all⟩))
    refine ⟨Option.ne_none_iff_exists'.mp returns, ?_, ?_⟩
    · intro front raw back run
      exact (sliceInBounds_iff run.nonempty).mpr (mixed front raw back run)
    · intro front raw back run all
      exact absurd all (mixed front raw back run)

/-- The slice of an ellipsis starts at its end and stops at twice its length. -/
theorem ellipsis_slice_out_of_bounds : ¬∀ text, TokenizesInBounds text := by
  intro claim
  obtain ⟨tokens, returned⟩ := (claim "wait ... what").returns
  have panics : tokenize "wait ... what" = none := by decide +kernel
  rw [panics] at returned
  cases returned

end SpellServer
